import AiGateway.Cli.ConfigPreview
import AiGateway.Cli.ModelPolicy
import Mathlib.Data.Rat.Floor

/- `applyEditModel`: one call may change the model id, the provider instance, the fallback, the
   streaming capability and the policy of a row, in this order, and each step reads the row as
   the steps before left it. The step for the model id makes the capabilities and the policy
   those of the new model under the provider before it is moved; the move changes neither; and
   the step for the policy makes new bounds from the final row, but keeps defaults of the old.

   `edit_consistent_iff`: the row of an edit that succeeds is consistent exactly when what these
   steps read and what they should have read agree. `moved_model_does_not_think` is an edit that
   changes model and provider together. -/
namespace AiGateway.Cli

/-! ## The edit -/

structure EditPolicyInput where
  timeoutMs : Json.Number
  maxAttempts : Json.Number
  maxOutputTokens : Json.Number
  temperature : Option Json.Number := none

structure EditModelInput where
  modelAlias : String
  modelId : Option String := none
  providerInstance : Option String := none
  confirmNonBootable : Bool := false
  fallback : Option (Option String) := none   -- null clears it
  streaming : Option Bool := none
  policy : Option EditPolicyInput := none

inductive EditError where
  | modelNotFound (modelAlias : String)
  | lastModelOf (instanceId : String)
  | ownFallback
  | unknownAlias (modelAlias : String)
  | circularFallback
  | timeoutMs
  | maxAttempts
  | persist (e : CliError)
  deriving DecidableEq

/-- `config.providers[id]?.type`. -/
def typeOf (gateway : GatewayConfig) (instanceId : String) : Option ProviderType :=
  match property gateway.providers instanceId with
  | .own row => some row.type
  | .inherited => none
  | .missing => none

def editModelId (gateway : GatewayConfig) (modelId : String) (row : GatewayModelConfig) : GatewayModelConfig :=
  match typeOf gateway row.providerInstance with
  | none => { row with modelId := modelId }
  | some type =>
    let supportsThinking := isThinkingCapableModel modelId type
    let hadThinking := row.capabilities.thinking = some true
    { row with
      modelId := modelId
      capabilities :=
        if supportsThinking ∧ ¬hadThinking then { row.capabilities with thinking := some true }
        else if ¬supportsThinking ∧ hadThinking then { row.capabilities with thinking := none }
        else row.capabilities
      policy := syncPolicySamplingForModel row.policy modelId type }

/-- The moved row, and whether the effective check is skipped. -/
def editProviderInstance (gateway : GatewayConfig) (modelAlias target : String) (confirmNonBootable : Bool)
    (row : GatewayModelConfig) : Except EditError (GatewayModelConfig × Bool) :=
  let moved := { row with providerInstance := target }
  if target ≠ row.providerInstance ∧ isLastModelForEnabledProvider gateway modelAlias = true then
    if confirmNonBootable then .ok (moved, true) else .error (.lastModelOf row.providerInstance)
  else .ok (moved, false)

def editFallback (gateway : GatewayConfig) (modelAlias : String) (fallback : Option String)
    (row : GatewayModelConfig) : Except EditError GatewayModelConfig :=
  match JsString.truthy fallback with
  | none => .ok { row with fallback := none }
  | some text =>
    let name := JsString.trim text
    if name = modelAlias then .error .ownFallback
    else match property gateway.models name with
      | .missing => .error (.unknownAlias name)
      | .inherited => .ok { row with fallback := some name }
      | .own target =>
        if target.fallback = some modelAlias then .error .circularFallback
        else .ok { row with fallback := some name }

def asTimeoutMs (value : Json.Number) : Except EditError Json.Number :=
  if value.value < 1 then .error .timeoutMs else .ok value

theorem floor_attempts {q : ℚ} (h : 1 ≤ q ∧ q ≤ 5) : 1 ≤ ⌊q⌋₊ ∧ ⌊q⌋₊ ≤ 5 := by
  refine ⟨Nat.le_floor (by exact_mod_cast h.1), ?_⟩
  exact Nat.floor_le_of_le (by exact_mod_cast h.2)

def asMaxAttempts (value : Json.Number) : Except EditError MaxAttempts :=
  if h : 1 ≤ value.value ∧ value.value ≤ 5 then .ok ⟨⌊value.value⌋₊, floor_attempts h⟩ else .error .maxAttempts

/-- The params that the step for the policy leaves. -/
def editParams (providerType : Option ProviderType) (modelId : String) (policy : EditPolicyInput)
    (base : GatewayParams) : GatewayParams :=
  let rejectsSampling := providerType.any (providerModelRejectsSamplingParams modelId)
  let policyDefaults := defaultModelPolicy modelId providerType
  { defaults :=
      if rejectsSampling then { base.defaults with temperature := none, maxOutputTokens := some policy.maxOutputTokens }
      else { base.defaults with
        temperature := policy.temperature <|> base.defaults.temperature <|> some number0_7
        maxOutputTokens := some policy.maxOutputTokens }
    allowOverrides := policyDefaults.params.allowOverrides
    bounds := policyDefaults.params.bounds }

def editPolicy (gateway : GatewayConfig) (policy : EditPolicyInput) (row : GatewayModelConfig) :
    Except EditError GatewayModelConfig := do
  let providerType := typeOf gateway row.providerInstance
  let policyDefaults := defaultModelPolicy row.modelId providerType
  let timeoutMs ← asTimeoutMs policy.timeoutMs
  let maxAttempts ← asMaxAttempts policy.maxAttempts
  -- the schema takes whole milliseconds
  if !isInteger timeoutMs then .error (.persist .schema)
  else .ok { row with
    policy :=
      { timeoutMs := some timeoutMs.value.num.toNat
        retry := ⟨some maxAttempts, row.policy.retry.onStatus <|> policyDefaults.retry.onStatus⟩
        params := editParams providerType row.modelId policy row.policy.params } }

def editStreaming (streaming : Option Bool) (row : GatewayModelConfig) : GatewayModelConfig :=
  match streaming with
  | none => row
  | some streaming => { row with capabilities := { row.capabilities with streaming := some streaming } }

/-- The row after the step for the model id. -/
def EditModelInput.named (input : EditModelInput) (gateway : GatewayConfig) (row : GatewayModelConfig) :
    GatewayModelConfig :=
  match input.modelId with
  | some modelId => editModelId gateway modelId row
  | none => row

/-- The edited row, and whether the effective check is skipped. -/
def editRow (gateway : GatewayConfig) (input : EditModelInput) (row : GatewayModelConfig) :
    Except EditError (GatewayModelConfig × Bool) := do
  let named := input.named gateway row
  let (moved, skipEffectiveCheck) ← input.providerInstance.elim (.ok (named, false)) fun target =>
    editProviderInstance gateway input.modelAlias target input.confirmNonBootable named
  let linked ← input.fallback.elim (.ok moved) fun fallback => editFallback gateway input.modelAlias fallback moved
  let streamed := editStreaming input.streaming linked
  let tuned ← input.policy.elim (.ok streamed) fun policy => editPolicy gateway policy streamed
  .ok (tuned, skipEffectiveCheck)

/-- A member that every object inherits, as a row: no field is there, and `config.providers` is
asked for the instance "undefined". What is assigned to it is not in the configuration. -/
def inheritedRow : GatewayModelConfig :=
  ⟨undefinedText, undefinedText, none, ⟨none, none, none⟩, defaultModelPolicy "" none⟩

def persistEdit (secrets : GatewayConfig → EnvText → Option String) (state : CliState) (skipEffectiveCheck : Bool) :
    Except EditError CliState :=
  (persistConfig secrets state skipEffectiveCheck false).mapError .persist

def applyEditModel (secrets : GatewayConfig → EnvText → Option String) (state : CliState) (input : EditModelInput) :
    Except EditError CliState :=
  let gateway := state.config.gateway
  match property gateway.models input.modelAlias with
  | .missing => .error (.modelNotFound input.modelAlias)
  | .inherited => do
    let (_, skipEffectiveCheck) ← editRow gateway input inheritedRow
    persistEdit secrets state skipEffectiveCheck
  | .own row => do
    let (edited, skipEffectiveCheck) ← editRow gateway input row
    let models := gateway.models.set input.modelAlias edited
    persistEdit secrets { state with config := { state.config with gateway := { gateway with models := models } } }
      skipEffectiveCheck

/-! ## Consistent rows -/

structure RowConsistent (providerType : ProviderType) (row : GatewayModelConfig) : Prop where
  thinking : row.capabilities.thinking = some true ↔ isThinkingCapableModel row.modelId providerType = true
  sampling : providerModelRejectsSamplingParams row.modelId providerType = true → NoSampling row.policy.params
  maxOutputTokens : WithinBound row.policy.params.defaults.maxOutputTokens row.policy.params.bounds.maxOutputTokens
  temperature : WithinBound row.policy.params.defaults.temperature row.policy.params.bounds.temperature

/-- What an edit reads agrees with what holds after it; `before` and `after` are the types of
the row's provider.

* A new model id thinks under the one as under the other; without one the capability the row
  has is right after the move.
* Where the model refuses sampling: the policy step leaves a `topP` default that no new model
  id has cleared, and without that step the sync has asked the same of the old type.
* The `maxOutputTokens` given is within the new bound; without the policy step the row has its
  default within its bound, each taken from the old type where the row has none. -/
structure EditAgrees (input : EditModelInput) (row : GatewayModelConfig) (before after : ProviderType) : Prop where
  thinking : match input.modelId with
    | some modelId => isThinkingCapableModel modelId before = isThinkingCapableModel modelId after
    | none => (row.capabilities.thinking = some true ↔ isThinkingCapableModel row.modelId after = true)
  sampling : providerModelRejectsSamplingParams (input.modelId.getD row.modelId) after = true →
    match input.policy, input.modelId with
    | some _, some _ => True
    | some _, none => row.policy.params.defaults.topP = none
    | none, some modelId => providerModelRejectsSamplingParams modelId before = true
    | none, none => NoSampling row.policy.params
  bounds : match input.policy, input.modelId with
    | some policy, _ =>
      policy.maxOutputTokens.value ≤ (getMaxOutputTokensBound (input.modelId.getD row.modelId) after).value
    | none, some modelId =>
      WithinBound
        (row.policy.params.defaults.maxOutputTokens <|> some (getRecommendedMaxOutputTokens modelId before))
        (row.policy.params.bounds.maxOutputTokens <|> some ⟨Json.natNumber 1, getMaxOutputTokensBound modelId before⟩)
    | none, none =>
      WithinBound row.policy.params.defaults.maxOutputTokens row.policy.params.bounds.maxOutputTokens ∧
        WithinBound row.policy.params.defaults.temperature row.policy.params.bounds.temperature

/-! ## One step -/

section Steps
variable {gateway : GatewayConfig} {row row' : GatewayModelConfig} {before : ProviderType}

theorem editModelId_policy (hbefore : typeOf gateway row.providerInstance = some before) (modelId : String) :
    (editModelId gateway modelId row).policy = syncPolicySamplingForModel row.policy modelId before := by
  unfold editModelId
  rw [hbefore]

theorem editModelId_thinking (hbefore : typeOf gateway row.providerInstance = some before) (modelId : String) :
    (editModelId gateway modelId row).capabilities.thinking = some true ↔
      isThinkingCapableModel modelId before = true := by
  unfold editModelId
  simp only [hbefore]
  by_cases hsupports : isThinkingCapableModel modelId before = true
  · by_cases hhad : row.capabilities.thinking = some true
    · simp [hsupports, hhad]
    · simp [hsupports, hhad]
  · by_cases hhad : row.capabilities.thinking = some true
    · simp [hsupports, hhad]
    · simp [hsupports, hhad]

theorem editModelId_fields (modelId : String) :
    (editModelId gateway modelId row).modelId = modelId ∧
      (editModelId gateway modelId row).providerInstance = row.providerInstance := by
  unfold editModelId
  split
  · exact ⟨rfl, rfl⟩
  · exact ⟨rfl, rfl⟩

theorem editProviderInstance_ok {modelAlias target : String} {confirm skip : Bool}
    (h : editProviderInstance gateway modelAlias target confirm row = .ok (row', skip)) :
    row' = { row with providerInstance := target } := by
  unfold editProviderInstance at h
  dsimp only at h
  split at h
  · split at h
    · cases h
      rfl
    · cases h
  · cases h
    rfl

theorem editFallback_ok {modelAlias : String} {fallback : Option String}
    (h : editFallback gateway modelAlias fallback row = .ok row') : ∃ name, row' = { row with fallback := name } := by
  unfold editFallback at h
  dsimp only at h
  split at h
  · cases h
    exact ⟨_, rfl⟩
  · split at h
    · cases h
    · split at h
      · cases h
      · cases h
        exact ⟨_, rfl⟩
      · split at h
        · cases h
        · cases h
          exact ⟨_, rfl⟩

theorem editPolicy_ok {policy : EditPolicyInput} (h : editPolicy gateway policy row = .ok row') :
    ∃ edited, row' = { row with policy := edited } ∧
      edited.params = editParams (typeOf gateway row.providerInstance) row.modelId policy row.policy.params := by
  obtain ⟨timeoutMs, -, h⟩ := Fallible.bind_eq_ok.mp h
  obtain ⟨maxAttempts, -, h⟩ := Fallible.bind_eq_ok.mp h
  split at h
  · cases h
  · cases h
    exact ⟨_, rfl, rfl⟩

theorem editStreaming_fields (streaming : Option Bool) :
    (editStreaming streaming row).capabilities.thinking = row.capabilities.thinking ∧
      (editStreaming streaming row).modelId = row.modelId ∧
      (editStreaming streaming row).providerInstance = row.providerInstance ∧
      (editStreaming streaming row).policy = row.policy := by
  cases streaming <;> exact ⟨rfl, rfl, rfl, rfl⟩

/-! The steps of an input that may be absent. -/

variable {input : EditModelInput}

theorem named_fields : (input.named gateway row).modelId = input.modelId.getD row.modelId ∧
    (input.named gateway row).providerInstance = row.providerInstance := by
  unfold EditModelInput.named
  cases input.modelId with
  | none => exact ⟨rfl, rfl⟩
  | some modelId => exact editModelId_fields modelId

theorem moveStep_ok {skip : Bool}
    (h : (input.providerInstance.elim (.ok (row, false)) fun target =>
      editProviderInstance gateway input.modelAlias target input.confirmNonBootable row) = .ok (row', skip)) :
    row' = { row with providerInstance := input.providerInstance.getD row.providerInstance } := by
  cases htarget : input.providerInstance with
  | none =>
    rw [htarget] at h
    cases h
    rfl
  | some target =>
    rw [htarget] at h
    exact editProviderInstance_ok h

theorem linkStep_ok
    (h : (input.fallback.elim (.ok row) fun fallback => editFallback gateway input.modelAlias fallback row) = .ok row') :
    ∃ name, row' = { row with fallback := name } := by
  cases hfallback : input.fallback with
  | none =>
    rw [hfallback] at h
    cases h
    exact ⟨_, rfl⟩
  | some fallback =>
    rw [hfallback] at h
    exact editFallback_ok h

theorem tuneStep_ok (h : (input.policy.elim (.ok row) fun policy => editPolicy gateway policy row) = .ok row') :
    ∃ edited, row' = { row with policy := edited } ∧
      edited.params = match input.policy with
        | some policy => editParams (typeOf gateway row.providerInstance) row.modelId policy row.policy.params
        | none => row.policy.params := by
  cases hpolicy : input.policy with
  | none =>
    rw [hpolicy] at h
    cases h
    exact ⟨_, rfl, rfl⟩
  | some policy =>
    rw [hpolicy] at h
    exact editPolicy_ok h

end Steps

/-! ## The whole edit -/

/-- What an edit that succeeds leaves of a row. -/
structure Edited (gateway : GatewayConfig) (input : EditModelInput) (row edited : GatewayModelConfig) : Prop where
  modelId : edited.modelId = input.modelId.getD row.modelId
  providerInstance : edited.providerInstance = input.providerInstance.getD row.providerInstance
  thinking : edited.capabilities.thinking = (input.named gateway row).capabilities.thinking
  params : edited.policy.params = match input.policy with
    | some policy => editParams (typeOf gateway edited.providerInstance) edited.modelId policy
        (input.named gateway row).policy.params
    | none => (input.named gateway row).policy.params

theorem editRow_ok {gateway : GatewayConfig} {input : EditModelInput} {row edited : GatewayModelConfig} {skip : Bool}
    (h : editRow gateway input row = .ok (edited, skip)) : Edited gateway input row edited := by
  obtain ⟨hnamedId, hnamedInstance⟩ := @named_fields gateway row input
  obtain ⟨⟨moved, skip'⟩, hmove, h⟩ := Fallible.bind_eq_ok.mp h
  have hmoved := moveStep_ok hmove
  rw [hnamedInstance] at hmoved
  obtain ⟨linked, hlink, h⟩ := Fallible.bind_eq_ok.mp h
  obtain ⟨fallback, rfl⟩ := linkStep_ok hlink
  -- neither the fallback nor the streaming flag is read again, so the policy step sees the moved row
  obtain ⟨hthinking, hmodelId, hinstance, hpolicy⟩ :=
    @editStreaming_fields { moved with fallback := fallback } input.streaming
  obtain ⟨tuned, htune, h⟩ := Fallible.bind_eq_ok.mp h
  cases h
  obtain ⟨policy, rfl, hparams⟩ := tuneStep_ok htune
  subst hmoved
  refine ⟨?_, hinstance, hthinking, ?_⟩
  · show (editStreaming _ _).modelId = _
    rw [hmodelId]
    exact hnamedId
  · rw [hpolicy] at hparams
    exact hparams

/-! ## The params of a policy that was edited -/

theorem withinBound_some (v : Json.Number) (r : ParamRange) : WithinBound (some v) (some r) ↔ r.Contains v := by
  constructor
  · exact fun h => h v r rfl rfl
  · intro h v' r' hv hr
    cases hv
    cases hr
    exact h

section Params
variable {type : ProviderType} {modelId : String} {policy : EditPolicyInput} {base : GatewayParams}

/-- The step takes out the temperature, and makes new overrides and bounds: a `topP` default stays. -/
theorem editParams_noSampling_iff (hrejects : providerModelRejectsSamplingParams modelId type = true) :
    NoSampling (editParams (some type) modelId policy base) ↔ base.defaults.topP = none := by
  have hdefaults : (editParams (some type) modelId policy base).defaults =
      { base.defaults with temperature := none, maxOutputTokens := some policy.maxOutputTokens } := by
    simp [editParams, hrejects]
  have hfresh := default_noSampling hrejects
  constructor
  · intro h
    have htopP := h.topP
    rwa [hdefaults] at htopP
  · intro htopP
    refine ⟨by rw [hdefaults], by rwa [hdefaults], ?_, ?_, ?_⟩
    · rw [editParams, defaultModelPolicy_eq]
      exact hfresh.temperatureBound
    · rw [editParams, defaultModelPolicy_eq]
      exact hfresh.topPBound
    · rw [editParams, defaultModelPolicy_eq]
      exact hfresh.overrides

theorem editParams_default (providerType : Option ProviderType) :
    (editParams providerType modelId policy base).defaults.maxOutputTokens = some policy.maxOutputTokens := by
  simp only [editParams]
  split <;> rfl

/-- The schema wants at least one token. -/
theorem editParams_min {providerType : Option ProviderType}
    (haccepted : (editParams providerType modelId policy base).defaults.accepted = true) :
    1 ≤ policy.maxOutputTokens.value := by
  simp only [ParamDefaults.accepted, Bool.and_eq_true] at haccepted
  have htokens := haccepted.1.1.1.1.2
  rw [editParams_default, Option.all_some, Bool.and_eq_true, decide_eq_true_iff] at htokens
  exact htokens.2

theorem editParams_maxOutputTokens_iff (hmin : 1 ≤ policy.maxOutputTokens.value) :
    WithinBound (editParams (some type) modelId policy base).defaults.maxOutputTokens
        (editParams (some type) modelId policy base).bounds.maxOutputTokens ↔
      policy.maxOutputTokens.value ≤ (getMaxOutputTokensBound modelId type).value := by
  have hbound : (editParams (some type) modelId policy base).bounds.maxOutputTokens =
      some ⟨Json.natNumber 1, getMaxOutputTokensBound modelId type⟩ := by
    rw [editParams, defaultModelPolicy_eq]
    rfl
  rw [editParams_default, hbound, withinBound_some, ParamRange.Contains, Json.natNumber_value]
  exact and_iff_right (by exact_mod_cast hmin)

theorem editParams_temperature (haccepted : (editParams (some type) modelId policy base).defaults.accepted = true) :
    WithinBound (editParams (some type) modelId policy base).defaults.temperature
      (editParams (some type) modelId policy base).bounds.temperature := by
  have hwithin := @temperature_within modelId type _ haccepted
  rwa [← defaultModelPolicy_eq] at hwithin

end Params

/-! ## What an accepted configuration says -/

section Accepted
variable {secrets : GatewayConfig → EnvText → Option String} {state saved : CliState}

theorem persistEdit_ok {skip : Bool} (h : persistEdit secrets state skip = .ok saved) :
    saved = state ∧ state.config.accepted = true := by
  unfold persistEdit at h
  cases hpersist : persistConfig secrets state skip false with
  | error e =>
    rw [hpersist] at h
    cases h
  | ok persisted =>
    rw [hpersist] at h
    cases h
    refine ⟨persistConfig_ok hpersist, ?_⟩
    by_contra hrefused
    rw [Bool.not_eq_true] at hrefused
    have hschema : persistConfig secrets state skip false = .error .schema := by
      unfold persistConfig
      rw [hrefused]
      rfl
    cases hpersist.symm.trans hschema

theorem gateway_accepted {config : CliConfig} (h : config.accepted = true) : config.gateway.accepted = true := by
  simp only [CliConfig.accepted, Bool.and_eq_true] at h
  exact h.1.2

theorem typeOf_model {gateway : GatewayConfig} (h : gateway.accepted = true) {modelAlias : String}
    {row : GatewayModelConfig} (hrow : gateway.models.get? modelAlias = some row) :
    ∃ type, typeOf gateway row.providerInstance = some type := by
  obtain ⟨provider, hprovider⟩ := provider_of_model hrow h
  refine ⟨provider.type, ?_⟩
  unfold typeOf
  rw [property_of_get? hprovider]

theorem defaults_accepted {gateway : GatewayConfig} (h : gateway.accepted = true) {modelAlias : String}
    {row : GatewayModelConfig} (hrow : gateway.models.get? modelAlias = some row) :
    row.policy.params.defaults.accepted = true := by
  have hmodel := gateway.accepted_model h hrow
  simp only [modelAccepted, GatewayPolicy.accepted, Bool.and_eq_true] at hmodel
  exact hmodel.1.1.2.1.2

theorem applyEditModel_ok {input : EditModelInput} {row : GatewayModelConfig}
    (hrow : state.config.gateway.models.get? input.modelAlias = some row)
    (h : applyEditModel secrets state input = .ok saved) :
    ∃ edited skip, editRow state.config.gateway input row = .ok (edited, skip) ∧
      saved.config.gateway = { state.config.gateway with
        models := state.config.gateway.models.set input.modelAlias edited } ∧
      saved.config.accepted = true := by
  unfold applyEditModel at h
  simp only [property_of_get? hrow] at h
  obtain ⟨⟨edited, skip⟩, hedit, h⟩ := Fallible.bind_eq_ok.mp h
  obtain ⟨rfl, haccepted⟩ := persistEdit_ok h
  exact ⟨edited, skip, hedit, rfl, haccepted⟩

end Accepted

/-! ## The row of an edit that succeeds -/

section Row
variable {gateway : GatewayConfig} {input : EditModelInput} {row edited : GatewayModelConfig} {before after : ProviderType}

theorem edited_thinking_iff (hbefore : typeOf gateway row.providerInstance = some before)
    (h : Edited gateway input row edited) :
    (edited.capabilities.thinking = some true ↔ isThinkingCapableModel edited.modelId after = true) ↔
      match input.modelId with
      | some modelId => isThinkingCapableModel modelId before = isThinkingCapableModel modelId after
      | none => (row.capabilities.thinking = some true ↔ isThinkingCapableModel row.modelId after = true) := by
  rw [h.thinking, h.modelId, EditModelInput.named]
  cases input.modelId with
  | none => rfl
  | some modelId =>
    dsimp only
    rw [editModelId_thinking hbefore, Option.getD_some, ← Bool.eq_iff_iff]

theorem edited_sampling_iff (hbefore : typeOf gateway row.providerInstance = some before)
    (hafter : typeOf gateway edited.providerInstance = some after) (h : Edited gateway input row edited)
    (hrejects : providerModelRejectsSamplingParams edited.modelId after = true) :
    NoSampling edited.policy.params ↔
      match input.policy, input.modelId with
      | some _, some _ => True
      | some _, none => row.policy.params.defaults.topP = none
      | none, some modelId => providerModelRejectsSamplingParams modelId before = true
      | none, none => NoSampling row.policy.params := by
  rw [h.params, EditModelInput.named]
  cases input.policy with
  | none =>
    cases input.modelId with
    | none => rfl
    | some modelId =>
      dsimp only
      rw [editModelId_policy hbefore, sync_noSampling_iff]
  | some policy =>
    dsimp only
    rw [hafter, editParams_noSampling_iff hrejects]
    cases input.modelId with
    | none => rfl
    | some modelId =>
      dsimp only
      rw [editModelId_policy hbefore, iff_true]
      exact sync_topP

theorem edited_bounds_iff (hbefore : typeOf gateway row.providerInstance = some before)
    (hafter : typeOf gateway edited.providerInstance = some after) (h : Edited gateway input row edited)
    (haccepted : edited.policy.params.defaults.accepted = true) :
    (WithinBound edited.policy.params.defaults.maxOutputTokens edited.policy.params.bounds.maxOutputTokens ∧
        WithinBound edited.policy.params.defaults.temperature edited.policy.params.bounds.temperature) ↔
      match input.policy, input.modelId with
      | some policy, _ =>
        policy.maxOutputTokens.value ≤ (getMaxOutputTokensBound (input.modelId.getD row.modelId) after).value
      | none, some modelId =>
        WithinBound
          (row.policy.params.defaults.maxOutputTokens <|> some (getRecommendedMaxOutputTokens modelId before))
          (row.policy.params.bounds.maxOutputTokens <|> some ⟨Json.natNumber 1, getMaxOutputTokensBound modelId before⟩)
      | none, none =>
        WithinBound row.policy.params.defaults.maxOutputTokens row.policy.params.bounds.maxOutputTokens ∧
          WithinBound row.policy.params.defaults.temperature row.policy.params.bounds.temperature := by
  rw [h.params, hafter] at haccepted ⊢
  rw [← h.modelId]
  -- A policy in the request wins over the defaults of a new model id.
  cases hpolicy : input.policy with
  | some policy =>
    rw [hpolicy] at haccepted
    dsimp only at haccepted ⊢
    rw [editParams_maxOutputTokens_iff (editParams_min haccepted), and_iff_left (editParams_temperature haccepted)]
  | none =>
    rw [hpolicy] at haccepted
    dsimp only at haccepted ⊢
    unfold EditModelInput.named at haccepted ⊢
    cases hmodelId : input.modelId with
    | none => rfl
    | some modelId =>
      rw [hmodelId] at haccepted
      dsimp only at haccepted ⊢
      rw [editModelId_policy hbefore] at haccepted ⊢
      rw [and_iff_left (sync_temperature haccepted)]
      rfl

end Row

/-- The row that a successful edit leaves, and when it is consistent. -/
theorem edit_consistent_iff (secrets : GatewayConfig → EnvText → Option String) (state saved : CliState)
    (input : EditModelInput) (row : GatewayModelConfig) (haccepted : state.config.accepted = true)
    (hrow : state.config.gateway.models.get? input.modelAlias = some row)
    (hedit : applyEditModel secrets state input = .ok saved) :
    ∃ edited before after,
      saved.config.gateway.models.get? input.modelAlias = some edited ∧
      typeOf state.config.gateway row.providerInstance = some before ∧
      typeOf saved.config.gateway edited.providerInstance = some after ∧
      (RowConsistent after edited ↔ EditAgrees input row before after) := by
  obtain ⟨edited, skip, heditRow, hgateway, hsaved⟩ := applyEditModel_ok hrow hedit
  have hedited := editRow_ok heditRow
  have hget : saved.config.gateway.models.get? input.modelAlias = some edited := by
    rw [hgateway]
    exact JsMap.get?_set_self _ _ _
  obtain ⟨before, hbefore⟩ := typeOf_model (gateway_accepted haccepted) hrow
  obtain ⟨after, hafter⟩ := typeOf_model (gateway_accepted hsaved) hget
  -- Saving changes the row alone, so that the new type can be read in the old configuration.
  have htype : typeOf state.config.gateway edited.providerInstance = some after := by
    rw [hgateway] at hafter
    exact hafter
  refine ⟨edited, before, after, hget, hbefore, hafter, ?_⟩
  have hthinking := @edited_thinking_iff _ _ _ _ _ after hbefore hedited
  have hsampling := edited_sampling_iff hbefore htype hedited
  have hbounds := edited_bounds_iff hbefore htype hedited (defaults_accepted (gateway_accepted hsaved) hget)
  constructor
  · intro h
    refine ⟨hthinking.mp h.thinking, ?_, hbounds.mp ⟨h.maxOutputTokens, h.temperature⟩⟩
    intro hrejects
    rw [← hedited.modelId] at hrejects
    exact (hsampling hrejects).mp (h.sampling hrejects)
  · intro h
    obtain ⟨hmax, htemperature⟩ := hbounds.mpr h.bounds
    refine ⟨hthinking.mpr h.thinking, ?_, hmax, htemperature⟩
    intro hrejects
    refine (hsampling hrejects).mpr (h.sampling ?_)
    rwa [← hedited.modelId]

/-! ## A model moved to another provider -/

/-- Two models of one provider and one of another. -/
def mixedModels : CliState where
  config := { twoProviders with
    gateway :=
      { providers := twoProviders.gateway.providers
        models := ⟨[("chat-large", ⟨"anthropic-primary", "claude-3-opus", none, ⟨none, none, none⟩, plainPolicy⟩),
          ("chat-small", ⟨"anthropic-primary", "claude-3-haiku", none, ⟨none, none, none⟩, plainPolicy⟩),
          ("chat-google", ⟨"google-primary", "gemini-pro", none, ⟨none, none, none⟩, plainPolicy⟩)], by decide⟩ } }
  env := []

/-- A new model id alone. -/
def renameModel : EditModelInput := { modelAlias := "chat-large", modelId := some "claude-opus-4-5" }

/-- A new model id, of the provider it is moved to. -/
def moveModel : EditModelInput :=
  { modelAlias := "chat-large", modelId := some "gemini-3.5-pro", providerInstance := some "google-primary" }

theorem mixedModels_accepted : mixedModels.config.accepted = true := by decide +kernel

theorem renameModel_saved : ∃ saved, applyEditModel noSecretsMissing mixedModels renameModel = .ok saved := by
  have hsome : (applyEditModel noSecretsMissing mixedModels renameModel).toOption.isSome = true := by decide +kernel
  obtain ⟨saved, hsaved⟩ := Option.isSome_iff_exists.mp hsome
  exact ⟨saved, Fallible.toOption_eq_some.mp hsaved⟩

theorem moveModel_saved : ∃ saved, applyEditModel noSecretsMissing mixedModels moveModel = .ok saved := by
  have hsome : (applyEditModel noSecretsMissing mixedModels moveModel).toOption.isSome = true := by decide +kernel
  obtain ⟨saved, hsaved⟩ := Option.isSome_iff_exists.mp hsome
  exact ⟨saved, Fallible.toOption_eq_some.mp hsaved⟩

/-- The new model thinks, and its row says so. -/
theorem edit_consistent_iff_renamed :
    ∃ saved edited type, applyEditModel noSecretsMissing mixedModels renameModel = .ok saved ∧
      saved.config.gateway.models.get? "chat-large" = some edited ∧ RowConsistent type edited := by
  obtain ⟨saved, hsaved⟩ := renameModel_saved
  obtain ⟨edited, before, after, hget, hbefore, hafter, hiff⟩ :=
    edit_consistent_iff noSecretsMissing mixedModels saved renameModel _ mixedModels_accepted rfl hsaved
  obtain ⟨edited', skip, hedit, hgateway, -⟩ := applyEditModel_ok rfl hsaved
  rw [hgateway, JsMap.get?_set_self] at hget
  cases hget
  cases hedit
  rw [hgateway] at hafter
  cases hbefore
  cases hafter
  have hrejects : providerModelRejectsSamplingParams "claude-opus-4-5" .anthropic = false := by decide
  refine ⟨saved, _, .anthropic, hsaved, ?_, hiff.mpr ⟨rfl, ?_, ?_⟩⟩
  · rw [hgateway]
    exact JsMap.get?_set_self _ _ _
  · intro h
    cases hrejects.symm.trans h
  · refine (withinBound_some _ _).mpr ?_
    simp only [ParamRange.Contains, getRecommendedMaxOutputTokens, getMaxOutputTokensBound, Json.natNumber_value]
    rw [if_pos (by decide)]
    norm_num

/-- The sync asks whether the new model thinks before the row is moved to its provider. -/
theorem moved_model_does_not_think :
    ¬ ∀ (secrets : GatewayConfig → EnvText → Option String) (state saved : CliState) (input : EditModelInput)
      (edited : GatewayModelConfig) (type : ProviderType), state.config.accepted = true →
      applyEditModel secrets state input = .ok saved →
      saved.config.gateway.models.get? input.modelAlias = some edited →
      typeOf saved.config.gateway edited.providerInstance = some type → RowConsistent type edited := by
  intro hclaim
  obtain ⟨saved, hsaved⟩ := moveModel_saved
  obtain ⟨edited, skip, hedit, hgateway, -⟩ := applyEditModel_ok rfl hsaved
  have hmodelId : edited.modelId = "gemini-3.5-pro" := by
    cases hedit
    rfl
  have hthinking : edited.capabilities.thinking = none := by
    cases hedit
    rfl
  have hget : saved.config.gateway.models.get? "chat-large" = some edited := by
    rw [hgateway]
    exact JsMap.get?_set_self _ _ _
  have htype : typeOf saved.config.gateway edited.providerInstance = some .google := by
    rw [hgateway]
    cases hedit
    rfl
  have hrow := (hclaim noSecretsMissing mixedModels saved moveModel edited .google mixedModels_accepted hsaved hget
    htype).thinking
  rw [hmodelId, hthinking] at hrow
  exact absurd (hrow.mpr (by decide)) (by decide)

end AiGateway.Cli
