import AiGateway.Chat.ParamBounds
import AiGateway.Providers.RequestParams
import Mathlib.Tactic.Linarith

/- `buildGenerationWarnings`, the warnings that a reply carries for call parameters its provider
   does not support, against what the provider is sent. A parameter matters to a type of provider
   if two calls that differ in it alone are ever sent as different parameters (`Matters`).

   * `warnings_exact`: outside of thinking a parameter is reported just when it is set and
     does not matter, `parallelToolCalls` apart, which three of the four types drop in silence. Of
     thinking, a numeric budget is reported where it changes nothing; the warning that an
     `openai-compatible` provider ignores thinking comes with a request that asks for it.
   * `thinking_room_iff`: the call options leave 512 tokens for a reply beside the thinking
     budget; when what is sent to Anthropic does so too. -/
namespace AiGateway

/-! ## What is sent -/

/-- The parameters that the call options decide, for a type of provider. -/
inductive SentParams where
  | anthropic (params : Anthropic.CallParams)
  | google (config : Google.GenerationConfig)
  | responses (params : Responses.CallParams)
  | chatCompletions (params : ChatCompletions.CallParams)

/-- `createOpenAiProviderCore` has the Responses API for `openai`, Chat Completions otherwise. -/
def sentParams (providerType : ProviderType) (modelId : String) (options : ProviderCallOptions) : SentParams :=
  match providerType with
  | .anthropic => .anthropic (Anthropic.callParams options)
  | .google => .google (Google.buildGenerationConfig options modelId)
  | .openai => .responses (Responses.callParams options)
  | .openaiCompatible => .chatCompletions (ChatCompletions.mapCallOptionsToChatCompletionParams modelId options)

/-- `options[key] !== undefined`. -/
def ProviderCallOptions.isSet (o : ProviderCallOptions) : ParamKey → Bool
  | .temperature => o.temperature.isSome
  | .maxOutputTokens => o.maxOutputTokens.isSome
  | .topP => o.topP.isSome
  | .stop => o.stop.isSome
  | .frequencyPenalty => o.frequencyPenalty.isSome
  | .presencePenalty => o.presencePenalty.isSome
  | .seed => o.seed.isSome
  | .topK => o.topK.isSome
  | .responseFormat => o.responseFormat.isSome
  | .thinkingEnabled => o.thinkingEnabled.isSome
  | .thinkingBudget => o.thinkingBudget.isSome
  | .parallelToolCalls => o.parallelToolCalls.isSome

/-! ## `buildGenerationWarnings` -/

def ignoredCode : String := "PARAM_IGNORED_BY_PROVIDER"

def warningField (key : ParamKey) : Option String := some ("params." ++ key.name)

/-- `Parameter <name> is not supported by <who> and was ignored.` -/
def notSupported (key : ParamKey) (who : String) : CachedChatWarning where
  code := ignoredCode
  message := "Parameter " ++ key.name ++ " is not supported by " ++ who ++ " and was ignored."
  field := warningField key

def responsesApi : String := "OpenAI Responses API"

/-- `OPENAI_RESPONSES_UNSUPPORTED_PARAMS`. -/
def openAiResponsesUnsupportedParams : List ParamKey := [.frequencyPenalty, .presencePenalty, .seed, .stop]

def openAiNumericThinkingBudgetIgnored (options : ProviderCallOptions) : Bool :=
  options.thinkingEnabled = some true && (numericBudget options.thinkingBudget).isSome

def openAiNumericThinkingBudgetWithoutEnable (options : ProviderCallOptions) : Bool :=
  options.thinkingEnabled ≠ some true && (numericBudget options.thinkingBudget).isSome

def numericBudgetNotMapped : CachedChatWarning where
  code := ignoredCode
  message := "Numeric thinkingBudget is not mapped to OpenAI reasoning API; effort level \"medium\" is used instead. " ++
    "Use string effort (low/medium/high) or reasoning_effort via OpenAI facade."
  field := warningField .thinkingBudget

def numericBudgetNotEnabled : CachedChatWarning where
  code := ignoredCode
  message := "Numeric thinkingBudget is ignored without thinkingEnabled: true. " ++
    "Enable thinking or use string effort (low/medium/high)."
  field := warningField .thinkingBudget

def thinkingNotSupportedWarning : CachedChatWarning where
  code := ignoredCode
  message := "Extended thinking / reasoning parameters are not supported by openai-compatible providers and were ignored"
  field := warningField .thinkingEnabled

/-- `if (condition) warnings.push(warning)`. -/
def warnIf (condition : Bool) (warning : CachedChatWarning) : List CachedChatWarning :=
  if condition then [warning] else []

def buildGenerationWarnings (options : ProviderCallOptions) (providerType : ProviderType) : List CachedChatWarning :=
  let named := "provider " ++ providerType.text
  let isOpenAi := providerType = .openai ∨ providerType = .openaiCompatible
  warnIf (options.isSet .frequencyPenalty && !isOpenAi) (notSupported .frequencyPenalty named) ++
  warnIf (options.isSet .presencePenalty && !isOpenAi) (notSupported .presencePenalty named) ++
  warnIf (options.isSet .seed && providerType = .anthropic) (notSupported .seed named) ++
  warnIf (options.isSet .topK && providerType = .openai) (notSupported .topK responsesApi) ++
  warnIf (options.isSet .topK && providerType = .openaiCompatible) (notSupported .topK named) ++
  warnIf (openAiNumericThinkingBudgetIgnored options && isOpenAi) numericBudgetNotMapped ++
  warnIf (openAiNumericThinkingBudgetWithoutEnable options && providerType = .openai) numericBudgetNotEnabled ++
  warnIf (providerType = .openaiCompatible && isOpenAiReasoningRequested options) thinkingNotSupportedWarning ++
  if providerType = .openai then
    openAiResponsesUnsupportedParams.flatMap fun key => warnIf (options.isSet key) (notSupported key responsesApi)
  else []

/-- One of the warnings names the parameter. -/
def Name (warnings : List CachedChatWarning) (key : ParamKey) : Prop :=
  ∃ warning ∈ warnings, warning.field = warningField key

def Reported (options : ProviderCallOptions) (providerType : ProviderType) (key : ParamKey) : Prop :=
  Name (buildGenerationWarnings options providerType) key

/-! ## What matters -/

/-- The options with these parameters undefined. -/
def ProviderCallOptions.without (o : ProviderCallOptions) (keys : List ParamKey) : ProviderCallOptions where
  temperature := if .temperature ∈ keys then none else o.temperature
  maxOutputTokens := if .maxOutputTokens ∈ keys then none else o.maxOutputTokens
  topP := if .topP ∈ keys then none else o.topP
  topK := if .topK ∈ keys then none else o.topK
  stop := if .stop ∈ keys then none else o.stop
  frequencyPenalty := if .frequencyPenalty ∈ keys then none else o.frequencyPenalty
  presencePenalty := if .presencePenalty ∈ keys then none else o.presencePenalty
  seed := if .seed ∈ keys then none else o.seed
  responseFormat := if .responseFormat ∈ keys then none else o.responseFormat
  thinkingEnabled := if .thinkingEnabled ∈ keys then none else o.thinkingEnabled
  thinkingBudget := if .thinkingBudget ∈ keys then none else o.thinkingBudget
  parallelToolCalls := if .parallelToolCalls ∈ keys then none else o.parallelToolCalls

/-- Two calls that differ in the parameter alone are sent as different parameters. -/
def Matters (providerType : ProviderType) (key : ParamKey) : Prop :=
  ∃ modelId o o', ProviderCallOptions.without o [key] = ProviderCallOptions.without o' [key] ∧
    sentParams providerType modelId o ≠ sentParams providerType modelId o'

/-- The parameters that a type of provider is never sent. -/
def unsent : ProviderType → List ParamKey
  | .anthropic => [.frequencyPenalty, .presencePenalty, .seed, .parallelToolCalls]
  | .google => [.frequencyPenalty, .presencePenalty, .parallelToolCalls]
  | .openai => [.frequencyPenalty, .presencePenalty, .seed, .stop, .topK]
  | .openaiCompatible => [.topK, .parallelToolCalls]

theorem without_without (o : ProviderCallOptions) {key : ParamKey} {keys : List ParamKey} (h : key ∈ keys) :
    (o.without [key]).without keys = o.without keys := by
  cases key <;> simp [ProviderCallOptions.without, h]

/-- What is sent does not depend on them. -/
theorem sentParams_without (providerType : ProviderType) (modelId : String) (o : ProviderCallOptions) :
    sentParams providerType modelId (o.without (unsent providerType)) = sentParams providerType modelId o := by
  cases providerType <;> rfl

theorem not_matters_of_unsent {providerType : ProviderType} {key : ParamKey} (h : key ∈ unsent providerType) :
    ¬ Matters providerType key := by
  intro hmatters
  obtain ⟨modelId, o, o', hsame, hne⟩ := hmatters
  apply hne
  calc sentParams providerType modelId o
      = sentParams providerType modelId ((o.without [key]).without (unsent providerType)) := by
        rw [without_without o h, sentParams_without]
    _ = sentParams providerType modelId ((o'.without [key]).without (unsent providerType)) := by rw [hsame]
    _ = sentParams providerType modelId o' := by rw [without_without o' h, sentParams_without]

/-! ## Every other parameter matters -/

def plainOptions : ProviderCallOptions :=
  ⟨none, none, none, none, none, none, none, none, none, none, none, none⟩

/-- A call with one parameter. -/
def optionsWith : ParamKey → ProviderCallOptions
  | .temperature => { plainOptions with temperature := some zeroNumber }
  | .maxOutputTokens => { plainOptions with maxOutputTokens := some zeroNumber }
  | .topP => { plainOptions with topP := some zeroNumber }
  | .stop => { plainOptions with stop := some (.one "END") }
  | .frequencyPenalty => { plainOptions with frequencyPenalty := some zeroNumber }
  | .presencePenalty => { plainOptions with presencePenalty := some zeroNumber }
  | .seed => { plainOptions with seed := some zeroNumber }
  | .topK => { plainOptions with topK := some zeroNumber }
  | .responseFormat => { plainOptions with responseFormat := some (.obj [("type", .str "json_object")]) }
  | .thinkingEnabled => { plainOptions with thinkingEnabled := some true }
  | .thinkingBudget => { plainOptions with thinkingBudget := some (.effort "low") }
  | .parallelToolCalls => { plainOptions with parallelToolCalls := some true }

theorem optionsWith_without (key : ParamKey) :
    (optionsWith key).without [key] = plainOptions.without [key] := by
  cases key <;> rfl

theorem effectiveMaxTokens_zero : effectiveMaxTokens (some zeroNumber) ≠ effectiveMaxTokens none := by
  show zeroNumber.value ≠ 1024
  rw [zeroNumber_value]
  norm_num

theorem matters_anthropic {key : ParamKey} (h : key ∉ unsent .anthropic) : Matters .anthropic key := by
  refine ⟨"claude-haiku-4-5", optionsWith key, plainOptions, optionsWith_without key, ?_⟩
  intro heq
  have hparams := SentParams.anthropic.inj heq
  cases key with
  | maxOutputTokens => exact effectiveMaxTokens_zero (congrArg Anthropic.CallParams.maxTokens hparams)
  | stop => cases congrArg Anthropic.CallParams.stopSequences hparams
  | temperature | topP | topK => cases congrArg Anthropic.CallParams.sampling hparams
  | responseFormat | thinkingBudget => cases congrArg Anthropic.CallParams.outputConfig hparams
  | thinkingEnabled => cases congrArg Anthropic.CallParams.thinking hparams
  | frequencyPenalty | presencePenalty | seed | parallelToolCalls => exact absurd (by decide) h

theorem matters_openai {key : ParamKey} (h : key ∉ unsent .openai) : Matters .openai key := by
  refine ⟨"gpt-5", optionsWith key, plainOptions, optionsWith_without key, ?_⟩
  intro heq
  have hparams := SentParams.responses.inj heq
  cases key with
  | temperature => cases congrArg Responses.CallParams.temperature hparams
  | maxOutputTokens => cases congrArg Responses.CallParams.maxOutputTokens hparams
  | topP => cases congrArg Responses.CallParams.topP hparams
  | responseFormat => cases congrArg Responses.CallParams.text hparams
  | parallelToolCalls => cases congrArg Responses.CallParams.parallelToolCalls hparams
  | thinkingEnabled | thinkingBudget => cases congrArg Responses.CallParams.reasoning hparams
  | frequencyPenalty | presencePenalty | seed | stop | topK => exact absurd (by decide) h

theorem matters_openaiCompatible {key : ParamKey} (h : key ∉ unsent .openaiCompatible) :
    Matters .openaiCompatible key := by
  refine ⟨"deepseek-chat", optionsWith key, plainOptions, optionsWith_without key, ?_⟩
  intro heq
  have hparams := SentParams.chatCompletions.inj heq
  cases key with
  | temperature => cases congrArg ChatCompletions.CallParams.temperature hparams
  | maxOutputTokens => cases congrArg ChatCompletions.CallParams.maxTokens hparams
  | topP => cases congrArg ChatCompletions.CallParams.topP hparams
  | stop => cases congrArg ChatCompletions.CallParams.stop hparams
  | frequencyPenalty => cases congrArg ChatCompletions.CallParams.frequencyPenalty hparams
  | presencePenalty => cases congrArg ChatCompletions.CallParams.presencePenalty hparams
  | seed => cases congrArg ChatCompletions.CallParams.seed hparams
  | responseFormat => cases congrArg ChatCompletions.CallParams.responseFormat hparams
  | thinkingEnabled | thinkingBudget => cases congrArg ChatCompletions.CallParams.thinking hparams
  | topK | parallelToolCalls => exact absurd (by decide) h

/-- Gemini reads a budget only of a call with thinking, to one of its models that think. -/
theorem matters_google {key : ParamKey} (h : key ∉ unsent .google) : Matters .google key := by
  by_cases hbudget : key = .thinkingBudget
  · subst hbudget
    refine ⟨"gemini-3-pro", { optionsWith .thinkingBudget with thinkingEnabled := some true },
      optionsWith .thinkingEnabled, rfl, ?_⟩
    intro heq
    cases congrArg Google.GenerationConfig.thinkingConfig (SentParams.google.inj heq)
  refine ⟨"gemini-3-pro", optionsWith key, plainOptions, optionsWith_without key, ?_⟩
  intro heq
  have hparams := SentParams.google.inj heq
  cases key with
  | temperature => cases congrArg Google.GenerationConfig.temperature hparams
  | maxOutputTokens => exact effectiveMaxTokens_zero (congrArg Google.GenerationConfig.maxOutputTokens hparams)
  | topP => cases congrArg Google.GenerationConfig.topP hparams
  | topK => cases congrArg Google.GenerationConfig.topK hparams
  | stop => cases congrArg Google.GenerationConfig.stopSequences hparams
  | seed => cases congrArg Google.GenerationConfig.seed hparams
  | responseFormat => cases congrArg Google.GenerationConfig.jsonMode hparams
  | thinkingEnabled => cases congrArg Google.GenerationConfig.thinkingConfig hparams
  | thinkingBudget => exact absurd rfl hbudget
  | frequencyPenalty | presencePenalty | parallelToolCalls => exact absurd (by decide) h

theorem matters_iff (providerType : ProviderType) (key : ParamKey) :
    Matters providerType key ↔ key ∉ unsent providerType := by
  refine ⟨fun hmatters hunsent => not_matters_of_unsent hunsent hmatters, ?_⟩
  intro h
  cases providerType with
  | anthropic => exact matters_anthropic h
  | google => exact matters_google h
  | openai => exact matters_openai h
  | openaiCompatible => exact matters_openaiCompatible h

/-! ## What is reported -/

theorem warningField_inj {key key' : ParamKey} : warningField key = warningField key' ↔ key = key' := by
  constructor
  · intro h
    cases key <;> cases key' <;> first | rfl | exact absurd h (by decide)
  · intro h
    rw [h]

theorem name_append {ws ws' : List CachedChatWarning} {key : ParamKey} :
    Name (ws ++ ws') key ↔ Name ws key ∨ Name ws' key := by
  simp [Name, or_and_right, exists_or]

theorem name_warnIf {condition : Bool} {warning : CachedChatWarning} {key key' : ParamKey}
    (hfield : warning.field = warningField key') : Name (warnIf condition warning) key ↔ condition = true ∧ key = key' := by
  cases condition with
  | false => simp [Name, warnIf]
  | true => simp [Name, warnIf, hfield, warningField_inj, eq_comm]

/-- The parameters that the Responses API does not have. -/
theorem name_responsesUnsupported (o : ProviderCallOptions) (key : ParamKey) :
    Name (openAiResponsesUnsupportedParams.flatMap fun k => warnIf (o.isSet k) (notSupported k responsesApi)) key ↔
      key ∈ openAiResponsesUnsupportedParams ∧ o.isSet key = true := by
  induction openAiResponsesUnsupportedParams with
  | nil => simp [Name]
  | cons k keys ih =>
    rw [List.flatMap_cons, name_append, ih, name_warnIf rfl, List.mem_cons]
    constructor
    · intro h
      obtain ⟨hset, rfl⟩ | ⟨hmem, hset⟩ := h
      · exact ⟨.inl rfl, hset⟩
      · exact ⟨.inr hmem, hset⟩
    · intro h
      obtain ⟨rfl | hmem, hset⟩ := h
      · exact .inl ⟨hset, rfl⟩
      · exact .inr ⟨hmem, hset⟩

/-- The warnings that name a parameter, one condition each. -/
theorem reported_iff (o : ProviderCallOptions) (providerType : ProviderType) (key : ParamKey) :
    Reported o providerType key ↔
      (key = .thinkingBudget ∧ (numericBudget o.thinkingBudget).isSome = true ∧
        (providerType = .openai ∨ providerType = .openaiCompatible ∧ o.thinkingEnabled = some true)) ∨
      (key = .thinkingEnabled ∧ providerType = .openaiCompatible ∧ isOpenAiReasoningRequested o = true) ∨
      (key ≠ .parallelToolCalls ∧ o.isSet key = true ∧ key ∈ unsent providerType) := by
  have hnone : Name [] key ↔ False := by simp [Name]
  unfold Reported buildGenerationWarnings
  simp only [name_append, name_warnIf (show (notSupported _ _).field = _ from rfl),
    name_warnIf (show numericBudgetNotMapped.field = _ from rfl),
    name_warnIf (show numericBudgetNotEnabled.field = _ from rfl),
    name_warnIf (show thinkingNotSupportedWarning.field = _ from rfl)]
  cases providerType with
  | anthropic => cases key <;> simp [hnone, unsent]
  | google => cases key <;> simp [hnone, unsent]
  | openai =>
    simp only [if_true, name_responsesUnsupported]
    cases key <;> simp [unsent, openAiResponsesUnsupportedParams, openAiNumericThinkingBudgetIgnored,
      openAiNumericThinkingBudgetWithoutEnable]
    by_cases henabled : o.thinkingEnabled = some true <;> simp [henabled]
  | openaiCompatible =>
    cases key <;> simp [hnone, unsent, openAiNumericThinkingBudgetIgnored, and_comm]

/-- An OpenAI API is sent the same with a numeric budget and without. -/
theorem numericBudget_unsent {o : ProviderCallOptions} (h : (numericBudget o.thinkingBudget).isSome = true)
    {providerType : ProviderType} (hopenAi : providerType = .openai ∨ providerType = .openaiCompatible)
    (modelId : String) :
    sentParams providerType modelId (o.without [.thinkingBudget]) = sentParams providerType modelId o := by
  obtain ⟨n, hn⟩ : ∃ n, o.thinkingBudget = some (.tokens n) := by
    cases hbudget : o.thinkingBudget with
    | none => simp [hbudget, numericBudget] at h
    | some budget =>
      cases budget with
      | effort word => simp [hbudget, numericBudget] at h
      | tokens n => exact ⟨n, rfl⟩
  -- A number asks for no effort, and without `thinkingEnabled` for no thinking either.
  have hrequested : isOpenAiReasoningRequested (o.without [.thinkingBudget]) = isOpenAiReasoningRequested o := by
    have henabled : (o.without [.thinkingBudget]).thinkingEnabled = o.thinkingEnabled := rfl
    have hbudget : (o.without [.thinkingBudget]).thinkingBudget = none := rfl
    unfold isOpenAiReasoningRequested
    rw [henabled, hbudget]
    cases o.thinkingEnabled with
    | some enabled => rfl
    | none => simp only [hn]
  have heffort : Responses.mapThinkingBudgetToEffort none = Responses.mapThinkingBudgetToEffort o.thinkingBudget := by
    simp only [hn, Responses.mapThinkingBudgetToEffort]
  obtain rfl | rfl := hopenAi
  · have hreasoning : Responses.mapThinkingToResponsesReasoning (o.without [.thinkingBudget]) =
        Responses.mapThinkingToResponsesReasoning o := by
      unfold Responses.mapThinkingToResponsesReasoning
      rw [hrequested, ← heffort]
      rfl
    show SentParams.responses { Responses.callParams o with
      reasoning := Responses.mapThinkingToResponsesReasoning (o.without [.thinkingBudget]) } = _
    rw [hreasoning]
    rfl
  · show SentParams.chatCompletions { ChatCompletions.mapCallOptionsToChatCompletionParams modelId o with
      thinking := isOpenAiReasoningRequested (o.without [.thinkingBudget]) } = _
    rw [hrequested]
    rfl

/-- **What the warnings say and what is sent**, for every call and every type of provider. -/
theorem warnings_exact (o : ProviderCallOptions) (providerType : ProviderType) :
    (∀ key, key ≠ .thinkingEnabled → key ≠ .thinkingBudget →
      (Reported o providerType key ↔
        o.isSet key = true ∧ ¬ Matters providerType key ∧ key ≠ .parallelToolCalls)) ∧
    (Matters providerType .parallelToolCalls ↔ providerType = .openai) ∧
    (Reported o providerType .thinkingBudget → ∀ modelId,
      sentParams providerType modelId (o.without [.thinkingBudget]) = sentParams providerType modelId o) ∧
    (Reported o providerType .thinkingEnabled ↔
      providerType = .openaiCompatible ∧ isOpenAiReasoningRequested o = true) ∧
    (Reported o providerType .thinkingEnabled → ∀ modelId, ∃ params,
      sentParams providerType modelId o = .chatCompletions params ∧ params.thinking = true) := by
  have hthinking : Reported o providerType .thinkingEnabled ↔
      providerType = .openaiCompatible ∧ isOpenAiReasoningRequested o = true := by
    rw [reported_iff]
    cases providerType <;> simp [unsent]
  -- A key is reported for what `unsent` says of the provider type; the budget and thinking are apart.
  refine ⟨?_, ?_, ?_, hthinking, ?_⟩
  · intro key henabled hbudget
    rw [reported_iff, matters_iff, not_not]
    constructor
    · intro h
      obtain ⟨hkey, -⟩ | ⟨hkey, -⟩ | ⟨hparallel, hset, hunsent⟩ := h
      · exact absurd hkey hbudget
      · exact absurd hkey henabled
      · exact ⟨hset, hunsent, hparallel⟩
    · intro h
      obtain ⟨hset, hunsent, hparallel⟩ := h
      exact .inr (.inr ⟨hparallel, hset, hunsent⟩)
  · rw [matters_iff]
    cases providerType <;> decide
  · intro h modelId
    rw [reported_iff] at h
    obtain ⟨-, hnumeric, hopenAi⟩ | ⟨hkey, -⟩ | ⟨-, -, hunsent⟩ := h
    · exact numericBudget_unsent hnumeric (hopenAi.imp_right And.left) modelId
    · cases hkey
    · cases providerType <;> exact absurd hunsent (by decide)
  · intro h modelId
    obtain ⟨rfl, hrequested⟩ := hthinking.mp h
    exact ⟨_, rfl, hrequested⟩

/-- A seed and a numeric budget, for the Responses API. -/
def seededOptions : ProviderCallOptions :=
  { plainOptions with seed := some number1, thinkingBudget := some (.tokens number1) }

theorem warnings_exact_seeded :
    (¬ Matters .openai .seed ∧ Reported seededOptions .openai .seed) ∧
      ∀ modelId, sentParams .openai modelId (seededOptions.without [.thinkingBudget]) =
        sentParams .openai modelId seededOptions := by
  obtain ⟨hkeys, -, hbudget, -⟩ := warnings_exact seededOptions .openai
  have hseed : ¬ Matters .openai .seed := not_matters_of_unsent (by decide)
  refine ⟨⟨hseed, (hkeys .seed (by decide) (by decide)).mpr ⟨rfl, hseed, by decide⟩⟩, hbudget ?_⟩
  exact (reported_iff _ _ _).mpr (.inl ⟨rfl, rfl, .inl rfl⟩)

/-! ## Room for a reply -/

/-- What `resolveProviderCallOptions` has checked of a budget in tokens. -/
theorem resolved_room {numberText : ℚ → String} {policy : GatewayParams} {body : Option BodyParams}
    {options : ProviderCallOptions} (h : resolveProviderCallOptions numberText policy body = .ok options)
    (henabled : options.thinkingEnabled = some true) {n : Json.Number}
    (hbudget : options.thinkingBudget = some (.tokens n)) :
    n.value + 512 ≤ effectiveMaxTokens options.maxOutputTokens := by
  have hassembled := resolve_ok h
  have hthinking : effectiveThinking policy body = some true := by
    rw [← henabled, hassembled]
    rfl
  have hsent : (bodyValues body).thinkingBudget = .value (.tokens n) := by
    rw [hassembled] at hbudget
    have hbudget : (bodyValues body).thinkingBudget.orDefault none = some (.tokens n) := hbudget
    cases hvalue : (bodyValues body).thinkingBudget with
    | absent => simp [hvalue, Sent.orDefault] at hbudget
    | null => simp [hvalue, Sent.orDefault] at hbudget
    | value b => exact congrArg Sent.value (by simpa [hvalue, Sent.orDefault] using hbudget)
  rw [hassembled]
  by_contra hless
  obtain ⟨e, he⟩ := (@resolve_throws_iff numberText policy body).mpr (.inr ⟨hthinking, n, hsent, not_le.mp hless⟩)
  rw [h] at he
  cases he

/-- A call that thinks with a budget in tokens: Anthropic is sent at least 1024 of them. The 512
tokens for a reply are left unless the budget was raised to 1024 under fewer than 1536, and the
budget that is sent stays below `max_tokens` if that is over 1024. -/
theorem thinking_room_iff (numberText : ℚ → String) (policy : GatewayParams) (body : Option BodyParams)
    (options : ProviderCallOptions) (h : resolveProviderCallOptions numberText policy body = .ok options)
    (henabled : options.thinkingEnabled = some true) (n : Json.Number)
    (hbudget : options.thinkingBudget = some (.tokens n)) :
    ∃ budget maxTokens, (Anthropic.callParams options).thinking = some (.enabled budget) ∧
      (Anthropic.callParams options).maxTokens = maxTokens ∧ 1024 ≤ budget ∧ n.value ≤ budget ∧
      n.value + 512 ≤ maxTokens ∧ (budget + 512 ≤ maxTokens ↔ 1024 ≤ n.value ∨ 1536 ≤ maxTokens) ∧
      (budget < maxTokens ↔ 1024 < maxTokens) := by
  have hroom := resolved_room h henabled hbudget
  have hsent : (Anthropic.callParams options).thinking = some (.enabled (max 1024 n.value)) := by
    show Anthropic.mapThinkingToAnthropic options = _
    unfold Anthropic.mapThinkingToAnthropic
    rw [if_pos henabled, hbudget]
    rfl
  refine ⟨max 1024 n.value, effectiveMaxTokens options.maxOutputTokens, hsent, rfl, le_max_left _ _, le_max_right _ _,
    hroom, ?_, ?_⟩
  -- Only a budget below 1024 is raised, and only then can the room get lost.
  · obtain hn | hn := le_total (1024 : ℚ) n.value
    · rw [max_eq_right hn]
      exact iff_of_true hroom (.inl hn)
    · rw [max_eq_left hn]
      constructor
      · intro hmax
        right
        linarith
      · intro hmax
        obtain hn' | hmax := hmax
        · linarith
        · linarith
  · rw [max_lt_iff]
    constructor
    · intro hboth
      exact hboth.1
    · intro hmax
      exact ⟨hmax, by linarith⟩

def thinkingBody : BodyParams where
  values := { thinkingEnabled := .value true, thinkingBudget := .value (.tokens number1) }
  keys := [.thinkingEnabled, .thinkingBudget]
  keys_complete := by
    intro key
    cases key <;> simp [ParamValues.isSet, Sent.isSet]

def thinkingOptions : ProviderCallOptions :=
  { plainOptions with thinkingEnabled := some true, thinkingBudget := some (.tokens number1) }

theorem resolve_thinkingBody (numberText : ℚ → String) :
    resolveProviderCallOptions numberText ⟨{}, ["thinkingEnabled", "thinkingBudget"], {}⟩ (some thinkingBody) =
      .ok thinkingOptions := by
  have hkeys : refusedOverride ["thinkingEnabled", "thinkingBudget"] thinkingBody = none := by decide
  have hroom : ¬ effectiveMaxTokens none < number1.value + 512 := by
    show ¬ (1024 : ℚ) < number1.value + 512
    rw [number1_value]
    norm_num
  simp only [resolveProviderCallOptions, Option.bind_some, hkeys]
  simp [thinkingBody, Sent.isSet, bounded, Sent.orDefault, numericBudget, hroom, numberOf, thinkingOptions, plainOptions]

/-- A budget of one token under the default of 1024 is sent as 1024 of 1024. -/
theorem thinking_room_one : ∃ budget maxTokens,
    (Anthropic.callParams thinkingOptions).thinking = some (.enabled budget) ∧
      (Anthropic.callParams thinkingOptions).maxTokens = maxTokens ∧ ¬ budget < maxTokens := by
  obtain ⟨budget, maxTokens, hthinking, hmax, -, -, -, -, hless⟩ := thinking_room_iff (fun _ => "") _ _ thinkingOptions
    (resolve_thinkingBody _) rfl number1 rfl
  refine ⟨budget, maxTokens, hthinking, hmax, ?_⟩
  rw [hless, ← hmax]
  show ¬ (1024 : ℚ) < 1024
  norm_num

end AiGateway
