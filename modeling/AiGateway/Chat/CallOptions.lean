import AiGateway.Cache.Identity
import AiGateway.Chat.Resilience
import AiGateway.Config.GatewayConfig

/- `resolveProviderCallOptions`: the parameters of a provider call from the policy of the alias
   and the `params` of the request. The text of a number that the code computes is a parameter
   (`Number.prototype.toString`). -/
namespace AiGateway

/-- The properties of `params`. -/
inductive ParamKey where
  | temperature | maxOutputTokens | topP | stop | frequencyPenalty | presencePenalty | seed | topK
  | responseFormat | thinkingEnabled | thinkingBudget | parallelToolCalls
  deriving DecidableEq, Repr

def ParamKey.name : ParamKey → String
  | .temperature => "temperature"
  | .maxOutputTokens => "maxOutputTokens"
  | .topP => "topP"
  | .stop => "stop"
  | .frequencyPenalty => "frequencyPenalty"
  | .presencePenalty => "presencePenalty"
  | .seed => "seed"
  | .topK => "topK"
  | .responseFormat => "responseFormat"
  | .thinkingEnabled => "thinkingEnabled"
  | .thinkingBudget => "thinkingBudget"
  | .parallelToolCalls => "parallelToolCalls"

/-- `OVERRIDE_KEYS` has all but the last. -/
def isOverrideKey (key : ParamKey) : Bool := key ≠ .parallelToolCalls

/-- A property of `params`: absent, `null` (which `@IsOptional` lets pass), or a value. -/
inductive Sent (α : Type) where
  | absent
  | null
  | value (a : α)

/-- `!== undefined`. -/
def Sent.isSet {α : Type} : Sent α → Bool
  | .absent => false
  | _ => true

/-- `ChatParamsDto` after validation. -/
structure ParamValues where
  temperature : Sent Json.Number := .absent
  maxOutputTokens : Sent Json.Number := .absent
  topP : Sent Json.Number := .absent
  topK : Sent Json.Number := .absent
  stop : Sent StopParam := .absent
  frequencyPenalty : Sent Json.Number := .absent
  presencePenalty : Sent Json.Number := .absent
  seed : Sent Json.Number := .absent
  responseFormat : Sent Json.Value := .absent
  thinkingEnabled : Sent Bool := .absent
  thinkingBudget : Sent ThinkingBudget := .absent
  parallelToolCalls : Sent Bool := .absent

def ParamValues.isSet (p : ParamValues) : ParamKey → Bool
  | .temperature => p.temperature.isSet
  | .maxOutputTokens => p.maxOutputTokens.isSet
  | .topP => p.topP.isSet
  | .stop => p.stop.isSet
  | .frequencyPenalty => p.frequencyPenalty.isSet
  | .presencePenalty => p.presencePenalty.isSet
  | .seed => p.seed.isSet
  | .topK => p.topK.isSet
  | .responseFormat => p.responseFormat.isSet
  | .thinkingEnabled => p.thinkingEnabled.isSet
  | .thinkingBudget => p.thinkingBudget.isSet
  | .parallelToolCalls => p.parallelToolCalls.isSet

/-- `params` of a request, with its `Object.keys`. -/
structure BodyParams where
  values : ParamValues
  keys : List ParamKey
  keys_complete : ∀ key, values.isSet key = true → key ∈ keys

/-- `details` of the errors below. -/
inductive OptionsErrorDetails where
  | notAllowed (field : String) (allowOverrides : List String)
  | insufficientTokens (field : String) (currentValue thinkingBudget minimumRequired : ℚ) (hint : String)

structure OptionsError where
  code : String
  message : String
  details : OptionsErrorDetails

/-- The `HttpException`, with status 400. -/
def OptionsError.thrown (e : OptionsError) : ThrownError := .http 400 (some e.code) e.message none

def notAllowedError (key : ParamKey) (suffix : String) (allowOverrides : List String) : OptionsError where
  code := "MODEL_NOT_ALLOWED"
  message := "Parameter " ++ key.name ++ " is not allowed for this model alias" ++ suffix
  details := .notAllowed ("params." ++ key.name) allowOverrides

def insufficientTokensError (numberText : ℚ → String) (effectiveMaxTokens thinkingBudget : ℚ) : OptionsError where
  code := "VALIDATION_FAILED"
  message := "maxOutputTokens (" ++ numberText effectiveMaxTokens ++
    ") is insufficient for thinking mode with budget " ++ numberText thinkingBudget ++ ". Minimum required: " ++
    numberText (thinkingBudget + 512) ++ " tokens (thinking budget + 512 token buffer for response text)."
  details := .insufficientTokens "params.maxOutputTokens" effectiveMaxTokens thinkingBudget (thinkingBudget + 512)
    ("Increase maxOutputTokens in request/config, reduce thinkingBudget, or use string effort level (e.g. " ++
      "\"medium\") for adaptive thinking without fixed budget.")

/-- `Math.min(max, Math.max(min, value))`. -/
def clamp (value min max : Json.Number) : Json.Number :=
  let raised := if value.value < min.value then min else value
  if max.value < raised.value then max else raised

/-- The value sent, or else the default. The options that result do not tell `null` from absent:
what was sent as `null` is not set. The readers that ask for `undefined` alone, as
`resolveAnthropicSamplingParams` and `buildGenerationWarnings` do, would take it for set. -/
def Sent.orDefault {α : Type} (sent : Sent α) (default : Option α) : Option α :=
  match sent with
  | .absent => default
  | .null => none
  | .value a => some a

theorem isNumberText_zero : Json.isNumberText ['0'] = true := by decide

def zeroNumber : Json.Number := ⟨['0'], isNumberText_zero⟩

/-- A parameter under its bound, if the policy has one; `Math.max(min, null)` reads a zero. -/
def bounded (sent : Sent Json.Number) (default : Option Json.Number) (range : Option ParamRange) :
    Option Json.Number :=
  match range with
  | none => sent.orDefault default
  | some r =>
    match sent with
    | .null => some (clamp zeroNumber r.min r.max)
    | _ => (sent.orDefault default).map fun v => clamp v r.min r.max

/-- `Number(bodyParams.topP)`. -/
def numberOf : Sent Json.Number → Sent Json.Number
  | .null => .value zeroNumber
  | sent => sent

/-- `typeof thinkingBudget === 'number'`. -/
def numericBudget : Option ThinkingBudget → Option ℚ
  | some (.tokens n) => some n.value
  | _ => none

/-- `effectiveMaxTokens`. -/
def effectiveMaxTokens (maxOutputTokens : Option Json.Number) : ℚ := (maxOutputTokens.map Json.Number.value).getD 1024

/-- The first key of the body that the policy does not allow. -/
def refusedOverride (allowOverrides : List String) (body : BodyParams) : Option ParamKey :=
  body.keys.find? fun key => isOverrideKey key && body.values.isSet key && !allowOverrides.contains key.name

def resolveProviderCallOptions (numberText : ℚ → String) (policy : GatewayParams) (body : Option BodyParams) :
    Except OptionsError ProviderCallOptions :=
  let values := (body.map BodyParams.values).getD {}
  match body.bind (refusedOverride policy.allowOverrides) with
  | some key => .error (notAllowedError key "" policy.allowOverrides)
  | none =>
    let maxOutputTokens := bounded values.maxOutputTokens policy.defaults.maxOutputTokens policy.bounds.maxOutputTokens
    -- the two checks that follow have been made above
    if values.thinkingEnabled.isSet && !policy.allowOverrides.contains "thinkingEnabled" then
      .error (notAllowedError .thinkingEnabled "" policy.allowOverrides)
    else if values.thinkingBudget.isSet && !policy.allowOverrides.contains "thinkingBudget" then
      .error (notAllowedError .thinkingBudget "." policy.allowOverrides)
    else
      let thinkingEnabled := values.thinkingEnabled.orDefault policy.defaults.thinkingEnabled
      let thinkingBudget := values.thinkingBudget.orDefault none
      let options : ProviderCallOptions :=
        { temperature := bounded values.temperature policy.defaults.temperature policy.bounds.temperature
          maxOutputTokens := maxOutputTokens
          topP := bounded (numberOf values.topP) policy.defaults.topP policy.bounds.topP
          topK := values.topK.orDefault none
          stop := values.stop.orDefault none
          frequencyPenalty := bounded values.frequencyPenalty policy.defaults.frequencyPenalty
            policy.bounds.frequencyPenalty
          presencePenalty := bounded values.presencePenalty policy.defaults.presencePenalty
            policy.bounds.presencePenalty
          seed := values.seed.orDefault policy.defaults.seed
          responseFormat := values.responseFormat.orDefault none
          thinkingEnabled := thinkingEnabled
          thinkingBudget := thinkingBudget
          parallelToolCalls := values.parallelToolCalls.orDefault none }
      match if thinkingEnabled = some true then numericBudget thinkingBudget else none with
      | some budget =>
        if effectiveMaxTokens maxOutputTokens < budget + 512 then
          .error (insufficientTokensError numberText (effectiveMaxTokens maxOutputTokens) budget)
        else .ok options
      | none => .ok options

/-- `isOpenAiReasoningRequested`. -/
def isOpenAiReasoningRequested (options : ProviderCallOptions) : Bool :=
  match options.thinkingEnabled with
  | some enabled => enabled
  | none =>
    match options.thinkingBudget with
    | some (.effort _) => true
    | _ => false

end AiGateway
