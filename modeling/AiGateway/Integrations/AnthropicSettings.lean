import AiGateway.Integrations.AnthropicRequest
import AiGateway.Chat.ParamBounds
import AiGateway.Lib.JsonText

/- The generation settings of an Anthropic body, from `mapAnthropicRequestToGateway` to the
   options of the provider call. Two of them can be left out, refused or asked for:

   - `thinking`: the mapper only ever turns it on. A `disabled` one sets nothing, so the policy's
     default decides, as it does for a body without `thinking`.
   - `output_config`: any one sets a response format, `text` where it has no `format` of its own. -/
namespace AiGateway

open Json (asNumber asText)

/-! ## `dto.params` at the types of `ChatParamsDto` -/

/-- A property that validation has left with a value of its type or a `null`. -/
def sentAs {α : Type} (read : Json.Value → Option α) : Option Json.Value → Option (Sent α)
  | none => some .absent
  | some .null => some .null
  | some v => (read v).map .value

def asStop : Json.Value → Option StopParam
  | .str s => some (.one s)
  | .arr items => (items.mapM asText).map .many
  | _ => none

/-- Nothing checks the type of `output_config.effort`. A value that is neither a number nor a
string is to the options a budget that is not a number; its text stands for it. -/
def asBudget : Json.Value → Option ThinkingBudget
  | .num n => some (.tokens n)
  | .str s => some (.effort s)
  | v => some (.effort (Json.stringify v))

def asFlag : Json.Value → Option Bool
  | .bool b => some b
  | _ => none

def Sent.ofOption {α : Type} : Option α → Sent α
  | none => .absent
  | some a => .value a

def ResponseFormat.toJson (format : ResponseFormat) : Json.Value :=
  .obj ((format.type.map (Prod.mk "type")).toList ++ (format.jsonSchema.map (Prod.mk "jsonSchema")).toList)

def ChatParams.toValues (p : ChatParams) : Option ParamValues := do
  let temperature ← sentAs asNumber p.temperature
  let maxOutputTokens ← sentAs asNumber p.maxOutputTokens
  let topP ← sentAs asNumber p.topP
  let topK ← sentAs asNumber p.topK
  let stop ← sentAs asStop p.stop
  let frequencyPenalty ← sentAs asNumber p.frequencyPenalty
  let presencePenalty ← sentAs asNumber p.presencePenalty
  let seed ← sentAs asNumber p.seed
  let thinkingBudget ← sentAs asBudget p.thinkingBudget
  let parallelToolCalls ← sentAs asFlag p.parallelToolCalls
  return { temperature, maxOutputTokens, topP, topK, stop, frequencyPenalty, presencePenalty, seed
           responseFormat := .ofOption (p.responseFormat.map ResponseFormat.toJson)
           thinkingEnabled := .ofOption p.thinkingEnabled
           thinkingBudget, parallelToolCalls }

/-- The order in which the mapper sets the properties, then those that it never sets. -/
def anthropicParamOrder : List ParamKey :=
  [.temperature, .maxOutputTokens, .topP, .topK, .stop, .responseFormat, .thinkingEnabled, .thinkingBudget,
    .frequencyPenalty, .presencePenalty, .seed, .parallelToolCalls]

theorem mem_anthropicParamOrder (key : ParamKey) : key ∈ anthropicParamOrder := by
  cases key <;> decide

theorem keys_of_order {values : ParamValues} (key : ParamKey) (h : values.isSet key = true) :
    key ∈ anthropicParamOrder.filter values.isSet :=
  List.mem_filter.mpr ⟨mem_anthropicParamOrder key, h⟩

def anthropicBodyParams (values : ParamValues) : BodyParams where
  values := values
  keys := anthropicParamOrder.filter values.isSet
  keys_complete := keys_of_order

/-- `dto.params` as `resolveProviderCallOptions` receives it. -/
def readParams : Option ChatParams → Option (Option BodyParams)
  | none => some none
  | some p => p.toValues.map fun values => some (anthropicBodyParams values)

/-- A property that validation has left as a number, if it was sent at all. -/
def IsNumeric (v : Option Json.Value) : Prop := v = none ∨ v = some .null ∨ ∃ n, v = some (.num n)

/-- The parameters of a body that has passed validation. -/
structure AnthropicMessagesBody.Validated (body : AnthropicMessagesBody) : Prop where
  temperature : IsNumeric body.temperature
  maxTokens : IsNumeric body.maxTokens
  topP : IsNumeric body.topP
  topK : IsNumeric body.topK
  stopSequences : body.stopSequences = none ∨ body.stopSequences = some .null ∨
    ∃ texts : List String, body.stopSequences = some (.arr (texts.map .str))

theorem sentAs_none {α : Type} (read : Json.Value → Option α) : sentAs read none = some .absent := rfl

theorem sentAs_numeric {v : Option Json.Value} (h : IsNumeric v) : ∃ sent, sentAs asNumber v = some sent := by
  obtain rfl | rfl | ⟨n, rfl⟩ := h
  · exact ⟨_, rfl⟩
  · exact ⟨_, rfl⟩
  · exact ⟨_, rfl⟩

theorem mapM_asText (texts : List String) : (texts.map Json.Value.str).mapM asText = some texts := by
  induction texts with
  | nil => rfl
  | cons text texts ih =>
    rw [List.map_cons, List.mapM_cons, ih]
    rfl

theorem sentAs_budget (v : Option Json.Value) : ∃ sent, sentAs asBudget v = some sent := by
  cases v with
  | none => exact ⟨_, rfl⟩
  | some v => cases v <;> exact ⟨_, rfl⟩

/-! ## The two settings through the mapper -/

/-- `body.thinking && body.thinking.type !== 'disabled'`. -/
def AnthropicMessagesBody.asksThinking (body : AnthropicMessagesBody) : Bool :=
  Json.truthy? body.thinking && !Json.isText (Json.prop body.thinking "type") "disabled"

theorem anthropicThinking_enabled (body : AnthropicMessagesBody) (params : ChatParams)
    (h : params.thinkingEnabled = none) :
    (anthropicThinking body params).thinkingEnabled = if body.asksThinking then some true else none := by
  unfold anthropicThinking AnthropicMessagesBody.asksThinking
  simp only
  split_ifs <;> simp_all

/-- Nothing else is touched. -/
theorem anthropicThinking_eq (body : AnthropicMessagesBody) (params : ChatParams) :
    ∃ enabled budget, anthropicThinking body params =
      { params with thinkingEnabled := enabled, thinkingBudget := budget } := by
  unfold anthropicThinking
  simp only
  split_ifs <;> exact ⟨_, _, rfl⟩

theorem anthropicThinking_responseFormat (body : AnthropicMessagesBody) (params : ChatParams) :
    (anthropicThinking body params).responseFormat = params.responseFormat := by
  obtain ⟨enabled, budget, heq⟩ := anthropicThinking_eq body params
  rw [heq]

/-- A body without parameters has neither setting. -/
theorem hasParams_false {body : AnthropicMessagesBody} (h : body.hasParams = false) :
    body.thinking = none ∧ body.outputConfig = none := by
  simp only [AnthropicMessagesBody.hasParams, List.any_eq_false, Option.not_isSome_iff_eq_none] at h
  exact ⟨h body.thinking (by simp), h body.outputConfig (by simp)⟩

/-- The parameters before `thinking` and `effort` are read. -/
def anthropicPlainParams (body : AnthropicMessagesBody) (responseFormat : Option ResponseFormat) : ChatParams where
  temperature := body.temperature
  maxOutputTokens := body.maxTokens
  topP := body.topP
  topK := body.topK
  stop := body.stopSequences
  responseFormat := responseFormat

/-- What `dto.params` can be: unset, or set with a format for every output configuration. -/
theorem anthropicParams_cases {body : AnthropicMessagesBody} {params : Option ChatParams}
    (h : anthropicParams body = .ok params) :
    (body.hasParams = false ∧ params = none) ∨
      ∃ responseFormat, params = some (anthropicThinking body (anthropicPlainParams body responseFormat)) ∧
        responseFormat.isSome = body.outputConfig.isSome := by
  unfold anthropicParams at h
  cases hparams : body.hasParams with
  | false =>
    simp only [hparams, Bool.not_false, if_true] at h
    exact .inl ⟨rfl, (Except.ok.inj h).symm⟩
  | true =>
    simp only [hparams, Bool.not_true, Bool.false_eq_true, if_false] at h
    right
    cases hconfig : body.outputConfig with
    | none =>
      rw [hconfig] at h
      exact ⟨none, (Except.ok.inj h).symm, rfl⟩
    | some config =>
      rw [hconfig] at h
      obtain ⟨format, hformat, h⟩ := Fallible.bind_eq_ok.mp h
      refine ⟨format, (Except.ok.inj h).symm, ?_⟩
      -- a format that is mapped is never undefined
      cases hmapped : anthropicResponseFormat config with
      | error e => rw [hmapped] at hformat; cases hformat
      | ok mapped => rw [hmapped] at hformat; cases hformat; rfl

theorem anthropicParams_settings {body : AnthropicMessagesBody} {params : Option ChatParams}
    (h : anthropicParams body = .ok params) :
    params.bind ChatParams.thinkingEnabled = (if body.asksThinking then some true else none) ∧
      (params.bind ChatParams.responseFormat).isSome = body.outputConfig.isSome := by
  obtain ⟨hparams, rfl⟩ | ⟨responseFormat, rfl, hformat⟩ := anthropicParams_cases h
  · obtain ⟨hthinking, hconfig⟩ := hasParams_false hparams
    simp [AnthropicMessagesBody.asksThinking, hthinking, hconfig, Json.truthy?]
  · refine ⟨anthropicThinking_enabled body _ rfl, ?_⟩
    rw [Option.bind_some, anthropicThinking_responseFormat]
    exact hformat

theorem mapAnthropicRequest_params {body : AnthropicMessagesBody} {dto : ChatRequestDto}
    (h : mapAnthropicRequestToGateway body = .ok dto) : anthropicParams body = .ok dto.params := by
  obtain ⟨mapped, -, h⟩ := Fallible.bind_eq_ok.mp h
  split at h
  · cases h
  · obtain ⟨params, hparams, h⟩ := Fallible.bind_eq_ok.mp h
    obtain ⟨definitions, -, h⟩ := Fallible.bind_eq_ok.mp h
    obtain ⟨toolChoice, -, h⟩ := Fallible.bind_eq_ok.mp h
    cases h
    exact hparams

/-- What the mapper makes of a validated body has the types of `ChatParamsDto`. -/
theorem readParams_validated {body : AnthropicMessagesBody} (hvalidated : body.Validated) {dto : ChatRequestDto}
    (hmap : mapAnthropicRequestToGateway body = .ok dto) : ∃ sent, readParams dto.params = some sent := by
  obtain ⟨temperature, htemperature⟩ := sentAs_numeric hvalidated.temperature
  obtain ⟨maxTokens, hmaxTokens⟩ := sentAs_numeric hvalidated.maxTokens
  obtain ⟨topP, htopP⟩ := sentAs_numeric hvalidated.topP
  obtain ⟨topK, htopK⟩ := sentAs_numeric hvalidated.topK
  have hstop : ∃ sent, sentAs asStop body.stopSequences = some sent := by
    obtain h | h | ⟨texts, h⟩ := hvalidated.stopSequences
    · exact ⟨.absent, by rw [h]; rfl⟩
    · exact ⟨.null, by rw [h]; rfl⟩
    · refine ⟨.value (.many texts), ?_⟩
      rw [h]
      simp only [sentAs, asStop, mapM_asText, Option.map_some]
  obtain ⟨stop, hstop⟩ := hstop
  obtain ⟨-, hnone⟩ | ⟨responseFormat, hsome, -⟩ := anthropicParams_cases (mapAnthropicRequest_params hmap)
  · rw [hnone]
    exact ⟨none, rfl⟩
  · obtain ⟨enabled, budget, heq⟩ := anthropicThinking_eq body (anthropicPlainParams body responseFormat)
    obtain ⟨thinkingBudget, hbudget⟩ := sentAs_budget budget
    rw [hsome, heq]
    simp only [readParams, ChatParams.toValues, anthropicPlainParams, htemperature, hmaxTokens, htopP, htopK, hstop,
      hbudget, sentAs_none]
    exact ⟨_, rfl⟩

/-! ## … and through the options -/

theorem toValues_settings {p : ChatParams} {values : ParamValues} (h : p.toValues = some values) :
    values.thinkingEnabled = .ofOption p.thinkingEnabled ∧
      values.responseFormat = .ofOption (p.responseFormat.map ResponseFormat.toJson) := by
  unfold ChatParams.toValues at h
  simp only [Option.bind_eq_bind, Option.bind_eq_some_iff, Option.pure_def, Option.some.injEq] at h
  obtain ⟨_, -, _, -, _, -, _, -, _, -, _, -, _, -, _, -, _, -, _, -, rfl⟩ := h
  exact ⟨rfl, rfl⟩

theorem readParams_settings {params : Option ChatParams} {sent : Option BodyParams}
    (h : readParams params = some sent) :
    (bodyValues sent).thinkingEnabled = .ofOption (params.bind ChatParams.thinkingEnabled) ∧
      (bodyValues sent).responseFormat =
        .ofOption ((params.bind ChatParams.responseFormat).map ResponseFormat.toJson) := by
  cases params with
  | none =>
    cases h
    exact ⟨rfl, rfl⟩
  | some p =>
    obtain ⟨values, hvalues, rfl⟩ := Option.map_eq_some_iff.mp h
    exact toValues_settings hvalues

/-- What the call is made with: thinking is on if the body asks for it and else as the policy has
it; there is a response format if there is an output configuration. -/
theorem effective_settings {numberText : ℚ → String} {policy : GatewayParams} {body : AnthropicMessagesBody}
    {dto : ChatRequestDto} {sent : Option BodyParams} {options : ProviderCallOptions}
    (hmap : mapAnthropicRequestToGateway body = .ok dto) (hread : readParams dto.params = some sent)
    (hresolve : resolveProviderCallOptions numberText policy sent = .ok options) :
    options.thinkingEnabled = (if body.asksThinking then some true else policy.defaults.thinkingEnabled) ∧
      options.responseFormat.isSome = body.outputConfig.isSome := by
  obtain ⟨hthinking, hformat⟩ := anthropicParams_settings (mapAnthropicRequest_params hmap)
  obtain ⟨hsentThinking, hsentFormat⟩ := readParams_settings hread
  rw [resolve_ok hresolve]
  constructor
  · show (bodyValues sent).thinkingEnabled.orDefault policy.defaults.thinkingEnabled = _
    rw [hsentThinking, hthinking]
    cases body.asksThinking <;> rfl
  · show ((bodyValues sent).responseFormat.orDefault none).isSome = _
    rw [hsentFormat, ← hformat]
    cases dto.params.bind ChatParams.responseFormat <;> rfl

/-- `body.thinking.type === 'disabled'`. -/
def AnthropicMessagesBody.thinkingDisabled (body : AnthropicMessagesBody) : Prop :=
  Json.isText (Json.prop body.thinking "type") "disabled" = true

theorem anthropic_settings (numberText : ℚ → String) (policy : GatewayParams) (body : AnthropicMessagesBody)
    (dto : ChatRequestDto) (sent : Option BodyParams) (options : ProviderCallOptions)
    (hmap : mapAnthropicRequestToGateway body = .ok dto) (hread : readParams dto.params = some sent)
    (hresolve : resolveProviderCallOptions numberText policy sent = .ok options) :
    (body.thinkingDisabled → policy.defaults.thinkingEnabled ≠ some true → options.thinkingEnabled ≠ some true) ∧
    (body.thinkingDisabled → policy.defaults.thinkingEnabled = some false →
      options.thinkingEnabled = some false) ∧
    (Json.truthy? body.thinking = true → ¬ body.thinkingDisabled → options.thinkingEnabled = some true) ∧
    (options.responseFormat.isSome = true ↔ body.outputConfig.isSome = true) := by
  obtain ⟨hthinking, hformat⟩ := effective_settings hmap hread hresolve
  have hdisabled : body.thinkingDisabled → options.thinkingEnabled = policy.defaults.thinkingEnabled := by
    intro h
    unfold AnthropicMessagesBody.thinkingDisabled at h
    simp [hthinking, AnthropicMessagesBody.asksThinking, h]
  refine ⟨?_, ?_, ?_, ?_⟩
  · intro h hdefault
    rw [hdisabled h]
    exact hdefault
  · intro h hdefault
    rw [hdisabled h, hdefault]
  · intro htruthy h
    unfold AnthropicMessagesBody.thinkingDisabled at h
    simp [hthinking, AnthropicMessagesBody.asksThinking, htruthy, h]
  · rw [hformat]

/-! ## Two calls -/

/-- A policy under which thinking is on by default and every parameter can be set. -/
def thinkingByDefault (thinkingEnabled : Option Bool) : GatewayParams where
  defaults := { thinkingEnabled := thinkingEnabled }
  allowOverrides := anthropicParamOrder.map ParamKey.name
  bounds := {}

def helloMessage : Nested AnthropicMessage := .dto ⟨.user, [.dto { type := .text, text := some "Hi" }]⟩

def disabledBody : AnthropicMessagesBody where
  model := "chat-default"
  messages := [helloMessage]
  thinking := some (.obj [("type", .str "disabled")])
  outputConfig := some (.obj [])

def disabledRequest : ChatRequestDto where
  modelAlias := "chat-default"
  messages := [⟨.user, "Hi", none, none⟩]
  params := some { responseFormat := some ⟨some (.str "text"), none⟩ }
  conversationId := none
  tooling := none
  metadata := none

theorem map_disabledBody : mapAnthropicRequestToGateway disabledBody = .ok disabledRequest := rfl

def disabledSent : BodyParams :=
  anthropicBodyParams { responseFormat := .value (.obj [("type", .str "text")]) }

theorem read_disabledRequest : readParams disabledRequest.params = some (some disabledSent) := rfl

theorem resolve_disabledSent (thinkingEnabled : Option Bool) :
    resolveProviderCallOptions (fun _ => "") (thinkingByDefault thinkingEnabled) (some disabledSent) =
      .ok (assembledOptions (thinkingByDefault thinkingEnabled) (some disabledSent)) := by
  cases thinkingEnabled with
  | none => rfl
  | some enabled => cases enabled <;> rfl

/-- The body disables thinking and gives no format; with a policy that has thinking on, the call
is made with thinking and with a format. -/
theorem disabled_overruled :
    (∀ key, isOverrideKey key = true → key.name ∈ (thinkingByDefault (some true)).allowOverrides) ∧
    disabledBody.thinkingDisabled ∧ Json.prop disabledBody.outputConfig "format" = none ∧
    ∃ dto sent options, mapAnthropicRequestToGateway disabledBody = .ok dto ∧ readParams dto.params = some sent ∧
      resolveProviderCallOptions (fun _ => "") (thinkingByDefault (some true)) sent = .ok options ∧
      options.thinkingEnabled = some true ∧ options.responseFormat = some (.obj [("type", .str "text")]) := by
  refine ⟨?_, rfl, rfl, _, _, _, map_disabledBody, read_disabledRequest, resolve_disabledSent (some true), rfl, rfl⟩
  intro key _
  exact List.mem_map_of_mem (mem_anthropicParamOrder key)

/-- The same body, with thinking off by default. -/
theorem anthropic_settings_disabled :
    (assembledOptions (thinkingByDefault (some false)) (some disabledSent)).thinkingEnabled = some false :=
  (anthropic_settings (fun _ => "") (thinkingByDefault (some false)) disabledBody disabledRequest (some disabledSent) _
    map_disabledBody read_disabledRequest (resolve_disabledSent (some false))).2.1 rfl rfl

end AiGateway
