import AiGateway.Chat.ParamBounds
import AiGateway.Lib.JsonText

/- The rows the CLI writes for a model: which model ids think and which refuse sampling
   parameters, by the patterns of their provider type, the default policy of a model, and what
   `syncPolicySamplingForModel` keeps of a policy when the model id changes.

   The patterns are case-insensitive without the `u` flag, which folds ASCII letters only. -/
namespace AiGateway.Cli

/-! ## Patterns -/

/-- What follows a prefix of the pattern. -/
def afterPrefix (start modelId : String) : Option (List Char) :=
  if start.toList.isPrefixOf (modelId.toList.map Char.toLower) then some (modelId.toList.drop start.length) else none

/-- `[low-9]`. -/
def startsFrom (low : Char) : List Char → Bool
  | c :: _ => low ≤ c && c ≤ '9'
  | [] => false

/-- `([low-9]|\d{2,})`. -/
def versionFrom (low : Char) (rest : List Char) : Bool :=
  startsFrom low rest || (startsFrom '0' rest && startsFrom '0' rest.tail)

/-- `[low-9]` and then one character. -/
def majorThen (low next : Char) (rest : List Char) : Bool := startsFrom low rest && rest.tail.head? = some next

/-- `THINKING_CAPABLE_MODEL_PATTERNS`. -/
def isThinkingCapableModel (modelId : String) : ProviderType → Bool
  | .anthropic => (afterPrefix "claude-opus-4-" modelId).isSome ||
      (afterPrefix "claude-sonnet-4-" modelId).any (versionFrom '5') ||
      (afterPrefix "claude-sonnet-" modelId).any (majorThen '5' '-')
  | .google => (afterPrefix "gemini-3." modelId).isSome || (afterPrefix "gemini-" modelId).any (majorThen '4' '.')
  | .openai => (afterPrefix "o" modelId).any (startsFrom '0') || (afterPrefix "gpt-5" modelId).isSome
  | .openaiCompatible => false

/-- `ANTHROPIC_NO_SAMPLING_PARAMS_PATTERNS`. -/
def anthropicModelRejectsSamplingParams (modelId : String) : Bool :=
  (afterPrefix "claude-opus-4-" modelId).any (versionFrom '7') || (afterPrefix "claude-sonnet-5" modelId).isSome ||
    (afterPrefix "claude-sonnet-" modelId).any (majorThen '5' '-')

def providerModelRejectsSamplingParams (modelId : String) (providerType : ProviderType) : Bool :=
  providerType = .anthropic && anthropicModelRejectsSamplingParams modelId

-- opus 4.7 thinks and refuses, 4.5 thinks; a sonnet does from 4.5 on
example : (["claude-opus-4-7", "Claude-Opus-4-5-20251101", "claude-sonnet-4-20250514", "claude-sonnet-4-0"].map
    fun id => (isThinkingCapableModel id .anthropic, anthropicModelRejectsSamplingParams id)) =
    [(true, true), (true, false), (true, false), (false, false)] := by decide

/-! ## Policies -/

def number0_7 : Json.Number := ⟨['0', '.', '7'], by decide⟩

def numberMinus2 : Json.Number := ⟨['-', '2'], by decide⟩

def getMaxOutputTokensBound (modelId : String) (providerType : ProviderType) : Json.Number :=
  Json.natNumber (if isThinkingCapableModel modelId providerType then 8192 else 1024)

def getRecommendedMaxOutputTokens (modelId : String) (providerType : ProviderType) : Json.Number :=
  Json.natNumber (if isThinkingCapableModel modelId providerType then 8192 else 1024)

/-- `DEFAULT_MODEL_ALLOW_OVERRIDES`. -/
def defaultModelAllowOverrides : List String :=
  ["temperature", "maxOutputTokens", "topP", "topK", "stop", "frequencyPenalty", "presencePenalty", "seed",
    "responseFormat", "thinkingEnabled", "thinkingBudget"]

/-- `SAMPLING_OVERRIDE_KEYS`. -/
def samplingOverrideKeys : List String := ["temperature", "topP", "topK"]

theorem default_attempts_valid : 1 ≤ 3 ∧ 3 ≤ 5 := by
  decide

def buildDefaultModelPolicy (modelId : String) (providerType : ProviderType) : GatewayPolicy :=
  let supportsThinking := isThinkingCapableModel modelId providerType
  let rejectsSampling := providerModelRejectsSamplingParams modelId providerType
  { timeoutMs := some 30000
    retry := ⟨some ⟨3, default_attempts_valid⟩, some [429, 500, 502, 503, 504]⟩
    params :=
      { defaults :=
          { temperature := if rejectsSampling then none else some number0_7
            maxOutputTokens := some (getRecommendedMaxOutputTokens modelId providerType)
            thinkingEnabled := if supportsThinking then some false else none }
        allowOverrides := defaultModelAllowOverrides.filter fun key => !rejectsSampling || !samplingOverrideKeys.contains key
        bounds :=
          { temperature := if rejectsSampling then none else some ⟨Json.natNumber 0, Json.natNumber 2⟩
            topP := if rejectsSampling then none else some ⟨Json.natNumber 0, Json.natNumber 1⟩
            maxOutputTokens := some ⟨Json.natNumber 1, getMaxOutputTokensBound modelId providerType⟩
            frequencyPenalty := some ⟨numberMinus2, Json.natNumber 2⟩
            presencePenalty := some ⟨numberMinus2, Json.natNumber 2⟩ } } }

/-- A model id or a provider type that is missing gives the policy of an unknown model. -/
def defaultModelPolicy (modelId : String) (providerType : Option ProviderType) : GatewayPolicy :=
  match providerType with
  | some type => if modelId = "" then buildDefaultModelPolicy "unknown" .anthropic else buildDefaultModelPolicy modelId type
  | none => buildDefaultModelPolicy "unknown" .anthropic

def syncPolicySamplingForModel (policy : GatewayPolicy) (modelId : String) (providerType : ProviderType) :
    GatewayPolicy :=
  let fresh := buildDefaultModelPolicy modelId providerType
  let rejectsSampling := providerModelRejectsSamplingParams modelId providerType
  let existing := policy.params.defaults
  let freshDefaults := fresh.params.defaults
  { timeoutMs := policy.timeoutMs <|> fresh.timeoutMs
    retry := ⟨policy.retry.maxAttempts <|> fresh.retry.maxAttempts, policy.retry.onStatus <|> fresh.retry.onStatus⟩
    params :=
      { defaults :=
          { freshDefaults with
            maxOutputTokens := existing.maxOutputTokens <|> freshDefaults.maxOutputTokens
            thinkingEnabled :=
              if freshDefaults.thinkingEnabled.isSome then existing.thinkingEnabled <|> freshDefaults.thinkingEnabled
              else freshDefaults.thinkingEnabled
            temperature :=
              if rejectsSampling then freshDefaults.temperature else existing.temperature <|> freshDefaults.temperature }
        allowOverrides := fresh.params.allowOverrides
        bounds :=
          { fresh.params.bounds with
            maxOutputTokens := policy.params.bounds.maxOutputTokens <|> fresh.params.bounds.maxOutputTokens } } }

/-! ## What a policy says of sampling -/

/-- A default lies within its bound, where both are there. -/
def WithinBound (default : Option Json.Number) (range : Option ParamRange) : Prop :=
  ∀ v r, default = some v → range = some r → r.Contains v

/-- No default, bound or override for `temperature`, `topP` or `topK`. -/
structure NoSampling (params : GatewayParams) : Prop where
  temperature : params.defaults.temperature = none
  topP : params.defaults.topP = none
  temperatureBound : params.bounds.temperature = none
  topPBound : params.bounds.topP = none
  overrides : ∀ key ∈ samplingOverrideKeys, key ∉ params.allowOverrides

/-- The patterns are asked of the model id "unknown" where there is none, which is in no pattern. -/
theorem defaultModelPolicy_eq (modelId : String) (type : ProviderType) :
    defaultModelPolicy modelId (some type) = buildDefaultModelPolicy modelId type := by
  unfold defaultModelPolicy
  by_cases hempty : modelId = ""
  · subst hempty
    cases type <;> rfl
  · simp only [if_neg hempty]

section Default
variable {modelId : String} {type : ProviderType}

/-- A model that refuses sampling has a default policy without it. -/
theorem default_noSampling (h : providerModelRejectsSamplingParams modelId type = true) :
    NoSampling (buildDefaultModelPolicy modelId type).params := by
  refine ⟨?_, rfl, ?_, ?_, ?_⟩
  · simp [buildDefaultModelPolicy, h]
  · simp [buildDefaultModelPolicy, h]
  · simp [buildDefaultModelPolicy, h]
  · intro key hkey hmem
    have hkept := (List.mem_filter.mp hmem).2
    rw [h] at hkept
    simp [hkey] at hkept

/-- The default bound of the temperature is what the schema takes for it. -/
theorem temperature_within {defaults : ParamDefaults} (haccepted : defaults.accepted = true) :
    WithinBound defaults.temperature (buildDefaultModelPolicy modelId type).params.bounds.temperature := by
  intro v r hv hr
  have hrange : r = ⟨Json.natNumber 0, Json.natNumber 2⟩ := by
    simp only [buildDefaultModelPolicy] at hr
    split at hr
    · cases hr
    · exact (Option.some.inj hr).symm
  simp only [ParamDefaults.accepted, Bool.and_eq_true] at haccepted
  have hwithin := haccepted.1.1.1.1.1
  rw [hv, Option.all_some, within, Bool.and_eq_true, decide_eq_true_iff, decide_eq_true_iff] at hwithin
  rw [hrange, ParamRange.Contains, Json.natNumber_value, Json.natNumber_value]
  exact ⟨by exact_mod_cast hwithin.1, by exact_mod_cast hwithin.2⟩

end Default

section Sync
variable {policy : GatewayPolicy} {modelId : String} {type : ProviderType}

theorem sync_topP : (syncPolicySamplingForModel policy modelId type).params.defaults.topP = none := rfl

/-- After the sync nothing is said of sampling exactly when the model refuses it. -/
theorem sync_noSampling_iff : NoSampling (syncPolicySamplingForModel policy modelId type).params ↔
    providerModelRejectsSamplingParams modelId type = true := by
  constructor
  · intro h
    have hbound := h.temperatureBound
    by_contra hrejects
    simp [syncPolicySamplingForModel, buildDefaultModelPolicy, hrejects] at hbound
  · intro h
    have hdefault := default_noSampling h
    refine ⟨?_, rfl, hdefault.temperatureBound, hdefault.topPBound, hdefault.overrides⟩
    simp [syncPolicySamplingForModel, buildDefaultModelPolicy, h]

/-- The sync keeps a temperature the schema has accepted, and takes the default bound. -/
theorem sync_temperature (haccepted : (syncPolicySamplingForModel policy modelId type).params.defaults.accepted = true) :
    WithinBound (syncPolicySamplingForModel policy modelId type).params.defaults.temperature
      (syncPolicySamplingForModel policy modelId type).params.bounds.temperature :=
  temperature_within haccepted

end Sync

end AiGateway.Cli
