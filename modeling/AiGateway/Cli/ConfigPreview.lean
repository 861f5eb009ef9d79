import AiGateway.Cli.ManagedConfig

/- What the CLI says before it changes a configuration: how many models stay active when
   instances are disabled, and whether an alias is the last model, of the configuration or of
   an enabled provider. The runtime decides the same by `buildEffectiveGatewayConfig` and
   `GatewayConfigSchema`.

   `preview_agrees`: for an accepted configuration the two say the same. -/
namespace AiGateway.Cli

def countActiveModelsAfterProviderChange (config : GatewayConfig)
    (disabledInstanceIds removedInstanceIds : Finset String) : ℕ :=
  config.models.values.countP fun model =>
    model.providerInstance ∉ removedInstanceIds &&
      match property config.providers model.providerInstance with
      | .missing => false
      | .inherited => model.providerInstance ∉ disabledInstanceIds
      | .own provider => model.providerInstance ∉ disabledInstanceIds && provider.enabled

def isLastModelInConfig (config : GatewayConfig) (modelAlias : String) : Bool :=
  config.models.entries.length = 1 &&
    match property config.models modelAlias with
    | .missing => false
    | _ => true

def countModelsForInstance (config : GatewayConfig) (instanceId : String) : ℕ :=
  config.models.values.countP fun model => model.providerInstance = instanceId

/-- The `providerInstance` of an inherited member is undefined, and no model has that. -/
def isLastModelForEnabledProvider (config : GatewayConfig) (modelAlias : String) : Bool :=
  match property config.models modelAlias with
  | .missing => false
  | .inherited => false
  | .own model =>
    match property config.providers model.providerInstance with
    | .missing => false
    | .inherited => countModelsForInstance config model.providerInstance = 1
    | .own provider => provider.enabled && countModelsForInstance config model.providerInstance = 1

/-- The configuration with `enabled: false` at these instances. -/
def GatewayConfig.withDisabled (config : GatewayConfig) (disabledInstanceIds : Finset String) : GatewayConfig where
  providers := config.providers.mapValues fun id row => { row with enabled := row.enabled && id ∉ disabledInstanceIds }
  models := config.models

/-- The configuration without an alias. -/
def GatewayConfig.withoutModel (config : GatewayConfig) (modelAlias : String) : GatewayConfig :=
  { config with models := config.models.erase modelAlias }

/-! ## What the schema asks of the models together -/

theorem gatewayAccepted_iff (config : GatewayConfig) : config.accepted = true ↔
    (∀ id row, config.providers.get? id = some row → row.accepted = true) ∧
      refsAccepted .empty config.providers.entries = true ∧
      (∀ modelAlias row, config.models.get? modelAlias = some row → modelAccepted config modelAlias row = true) ∧
      (∃ modelAlias row, config.models.get? modelAlias = some row) ∧
      ∀ id row, config.providers.get? id = some row → row.enabled = true →
        ∃ modelAlias model, config.models.get? modelAlias = some model ∧ model.providerInstance = id := by
  have hsome : (!config.models.entries.isEmpty) = true ↔ ∃ modelAlias row, config.models.get? modelAlias = some row := by
    rw [Bool.not_eq_true', List.isEmpty_eq_false_iff_exists_mem, Prod.exists]
    simp only [JsMap.mem_entries]
  unfold GatewayConfig.accepted
  simp only [Bool.and_eq_true, List.all_eq_true, decide_eq_true_iff, hsome, Bool.or_eq_true, List.any_eq_true,
    Prod.forall, Prod.exists, JsMap.mem_entries, Bool.not_eq_true']
  constructor
  · rintro ⟨⟨⟨⟨hrows, hrefs⟩, hmodels⟩, hne⟩, hidle⟩
    refine ⟨hrows, hrefs, hmodels, hne, ?_⟩
    intro id row hrow henabled
    obtain hdisabled | hmodel := hidle id row hrow
    · rw [henabled] at hdisabled
      cases hdisabled
    · exact hmodel
  · rintro ⟨hrows, hrefs, hmodels, hne, hidle⟩
    refine ⟨⟨⟨⟨hrows, hrefs⟩, hmodels⟩, hne⟩, ?_⟩
    intro id row hrow
    cases henabled : row.enabled with
    | false => exact .inl rfl
    | true => exact .inr (hidle id row hrow henabled)

/-- What the schema asks of a model depends on its fallback and on its provider. -/
theorem modelAccepted_congr {config config' : GatewayConfig} {modelAlias : String} {model : GatewayModelConfig}
    (hfallback : ∀ name, model.fallback = some name → config'.models.get? name = config.models.get? name)
    (hprovider : config'.providers.get? model.providerInstance = config.providers.get? model.providerInstance) :
    modelAccepted config' modelAlias model = modelAccepted config modelAlias model := by
  have hall : model.fallback.all (fallbackAccepted config'.models modelAlias) =
      model.fallback.all (fallbackAccepted config.models modelAlias) := by
    cases hname : model.fallback with
    | none => rfl
    | some name => simp only [Option.all_some, fallbackAccepted, property, hfallback name hname]
  unfold modelAccepted
  rw [hall, hprovider]

section Removal
variable {config : GatewayConfig} {modelAlias : String} {row : GatewayModelConfig}
  (hrow : config.models.get? modelAlias = some row)

include hrow in
theorem isLastModelInConfig_iff : isLastModelInConfig config modelAlias = true ↔
    ∀ other model, config.models.get? other = some model → other = modelAlias := by
  have hlength : config.models.entries.length = config.models.values.countP fun _ => true := by
    rw [List.countP_true, JsMap.values, List.length_map]
  unfold isLastModelInConfig
  simp only [property_of_get? hrow, Bool.and_true, decide_eq_true_iff]
  rw [hlength, JsMap.countP_eq_one_iff hrow rfl]
  simp

include hrow in
/-- In an accepted configuration the provider of a model is an own entry. -/
theorem provider_of_model (haccepted : config.accepted = true) :
    ∃ provider, config.providers.get? row.providerInstance = some provider := by
  have hmodel := config.accepted_model haccepted hrow
  simp only [modelAccepted, Bool.and_eq_true] at hmodel
  exact Option.isSome_iff_exists.mp hmodel.2

include hrow in
theorem isLastModelForEnabledProvider_iff (haccepted : config.accepted = true) :
    isLastModelForEnabledProvider config modelAlias = true ↔
      (∃ provider, config.providers.get? row.providerInstance = some provider ∧ provider.enabled = true) ∧
        ∀ other model, config.models.get? other = some model → model.providerInstance = row.providerInstance →
          other = modelAlias := by
  obtain ⟨provider, hprovider⟩ := provider_of_model hrow haccepted
  unfold isLastModelForEnabledProvider countModelsForInstance
  simp only [property_of_get? hrow, property_of_get? hprovider, Bool.and_eq_true, decide_eq_true_iff]
  rw [JsMap.countP_eq_one_iff hrow (by simp)]
  simp [hprovider]

/-- A model that does not fall back to the removed alias is accepted as before. -/
theorem modelAccepted_withoutModel {other : String} {model : GatewayModelConfig}
    (hfallback : model.fallback ≠ some modelAlias) :
    modelAccepted (GatewayConfig.withoutModel config modelAlias) other model = modelAccepted config other model := by
  refine modelAccepted_congr ?_ rfl
  intro name hname
  apply JsMap.get?_erase_ne
  intro hsame
  exact hfallback (hname.trans (congrArg some hsame))

include hrow in
/-- The schema accepts what is left exactly when every condition on all models still holds. -/
theorem withoutModel_accepted_iff (haccepted : config.accepted = true)
    (hfree : ∀ other model, config.models.get? other = some model → model.fallback ≠ some modelAlias) :
    (GatewayConfig.withoutModel config modelAlias).accepted = true ↔
      isLastModelInConfig config modelAlias = false ∧ isLastModelForEnabledProvider config modelAlias = false := by
  obtain ⟨hrows, hrefs, hmodels, -, hidle⟩ := (gatewayAccepted_iff config).mp haccepted
  rw [← Bool.not_eq_true, ← Bool.not_eq_true, isLastModelInConfig_iff hrow,
    isLastModelForEnabledProvider_iff hrow haccepted, gatewayAccepted_iff]
  simp only [GatewayConfig.withoutModel, JsMap.get?_erase]
  constructor
  · rintro ⟨-, -, -, ⟨other, model, hne, hother⟩, hidle'⟩
    refine ⟨fun hlast => hne (hlast other model hother), ?_⟩
    rintro ⟨⟨provider, hprovider, henabled⟩, hlast⟩
    obtain ⟨other', model', ⟨hne', hother'⟩, hinstance⟩ := hidle' _ provider hprovider henabled
    exact hne' (hlast other' model' hother' hinstance)
  · rintro ⟨hmore, hmoreOfProvider⟩
    refine ⟨hrows, hrefs, ?_, ?_, ?_⟩
    · intro other model hother
      have haccept := @modelAccepted_withoutModel config _ other _ (hfree other model hother.2)
      rw [GatewayConfig.withoutModel] at haccept
      rw [haccept]
      exact hmodels other model hother.2
    · -- with no other model the alias would be the last
      by_contra hnone
      apply hmore
      intro other model hother
      by_contra hne
      exact hnone ⟨other, model, hne, hother⟩
    · intro id provider hprovider henabled
      obtain ⟨other, model, hother, hinstance⟩ := hidle id provider hprovider henabled
      by_cases hne : other = modelAlias
      · -- the removed model is one of this provider: it has another
        subst hne
        rw [hrow] at hother
        cases hother
        subst hinstance
        by_contra hnone
        apply hmoreOfProvider
        refine ⟨⟨provider, hprovider, henabled⟩, ?_⟩
        intro other' model' hother' hinstance'
        by_contra hne'
        exact hnone ⟨other', model', ⟨hne', hother'⟩, hinstance'⟩
      · exact ⟨other, model, ⟨hne, hother⟩, hinstance⟩

end Removal

/-! ## The models that stay active -/

section Disabling
variable {config : GatewayConfig} {disabled : Finset String}

theorem length_keepEntries {α : Type} (object : JsMap String α) (keep : α → Bool) :
    (keepEntries object keep).entries.length = object.values.countP keep := by
  show (object.entries.filter fun e => keep e.2).length = (object.entries.map Prod.snd).countP keep
  rw [List.countP_map, List.countP_eq_length_filter]
  rfl

/-- The preview counts the models that the runtime keeps. -/
theorem count_eq_active (haccepted : config.accepted = true) :
    countActiveModelsAfterProviderChange config disabled ∅ =
      (keepEntries config.models (modelActive (GatewayConfig.withDisabled config disabled))).entries.length := by
  rw [length_keepEntries]
  unfold countActiveModelsAfterProviderChange
  apply List.countP_congr
  intro model hmodel
  obtain ⟨modelAlias, hrow⟩ := JsMap.mem_values.mp hmodel
  obtain ⟨provider, hprovider⟩ := provider_of_model hrow haccepted
  have hdisabled : (GatewayConfig.withDisabled config disabled).providers.get? model.providerInstance =
      some { provider with enabled := provider.enabled && model.providerInstance ∉ disabled } := by
    rw [GatewayConfig.withDisabled, JsMap.get?_mapValues, hprovider]
    rfl
  unfold modelActive
  rw [property_of_get? hprovider, property_of_get? hdisabled]
  simp [and_comm]

/-- Every instance that is still enabled has a model, which is active. -/
theorem no_idle_provider (haccepted : config.accepted = true) :
    ((keepEntries (GatewayConfig.withDisabled config disabled).providers ProviderRow.enabled).entries.find? fun (id, _) =>
      !(keepEntries config.models (modelActive (GatewayConfig.withDisabled config disabled))).values.any
        fun model => model.providerInstance = id) = none := by
  obtain ⟨-, -, -, -, hidle⟩ := (gatewayAccepted_iff config).mp haccepted
  rw [List.find?_eq_none]
  rintro ⟨id, row⟩ hrow
  obtain ⟨hget, henabled⟩ := get?_keepEntries.mp (JsMap.mem_entries.mp hrow)
  have hget' := hget
  rw [GatewayConfig.withDisabled, JsMap.get?_mapValues, Option.map_eq_some_iff] at hget'
  obtain ⟨provider, hprovider, rfl⟩ := hget'
  rw [Bool.and_eq_true] at henabled
  obtain ⟨modelAlias, model, hmodel, rfl⟩ := hidle id provider hprovider henabled.1
  have hactive : modelActive (GatewayConfig.withDisabled config disabled) model = true := by
    unfold modelActive
    rw [property_of_get? hget]
    simpa using henabled
  rw [Bool.not_eq_true, Bool.not_eq_false', List.any_eq_true]
  exact ⟨model, JsMap.mem_values.mpr ⟨modelAlias, get?_keepEntries.mpr ⟨hmodel, hactive⟩⟩, by simp⟩

/-- With the instances disabled the runtime fails for want of an active model, for a secret
that is missing, or not at all. -/
theorem effective_withDisabled (haccepted : config.accepted = true) (secretsError : Option String) :
    buildEffectiveGatewayConfig (GatewayConfig.withDisabled config disabled) secretsError =
      if countActiveModelsAfterProviderChange config disabled ∅ = 0 then .error noActiveModelsMessage
      else secretsError.elim
        (.ok ⟨keepEntries (GatewayConfig.withDisabled config disabled).providers ProviderRow.enabled,
          keepEntries config.models (modelActive (GatewayConfig.withDisabled config disabled))⟩) .error := by
  have hidle := @no_idle_provider config disabled haccepted
  have hmodels : (GatewayConfig.withDisabled config disabled).models = config.models := rfl
  unfold buildEffectiveGatewayConfig
  simp only [hmodels, hidle, count_eq_active haccepted, List.length_eq_zero_iff, List.isEmpty_iff]
  cases secretsError <;> rfl

end Disabling

/-- **The preview and the runtime agree.** -/
theorem preview_agrees (config : CliConfig) (haccepted : config.accepted = true) :
    (∀ (disabled : Finset String) (secretsError : Option String),
      if countActiveModelsAfterProviderChange config.gateway disabled ∅ = 0 then
        buildEffectiveGatewayConfig (GatewayConfig.withDisabled config.gateway disabled) secretsError =
          .error noActiveModelsMessage
      else ∃ effective, effective.models.entries.length = countActiveModelsAfterProviderChange config.gateway disabled ∅ ∧
        buildEffectiveGatewayConfig (GatewayConfig.withDisabled config.gateway disabled) secretsError =
          secretsError.elim (.ok effective) .error) ∧
    ∀ modelAlias row, config.gateway.models.get? modelAlias = some row →
      (∀ other model, config.gateway.models.get? other = some model → model.fallback ≠ some modelAlias) →
      (CliConfig.accepted { config with gateway := GatewayConfig.withoutModel config.gateway modelAlias } = true ↔
        isLastModelInConfig config.gateway modelAlias = false ∧
          isLastModelForEnabledProvider config.gateway modelAlias = false) := by
  simp only [CliConfig.accepted, Bool.and_eq_true] at haccepted
  obtain ⟨⟨hmaster, hgateway⟩, hclients⟩ := haccepted
  refine ⟨?_, ?_⟩
  · intro disabled secretsError
    rw [effective_withDisabled hgateway]
    by_cases hzero : countActiveModelsAfterProviderChange config.gateway disabled ∅ = 0
    · rw [if_pos hzero, if_pos hzero]
    · rw [if_neg hzero, if_neg hzero]
      exact ⟨_, (count_eq_active hgateway).symm, rfl⟩
  · intro modelAlias row hrow hfree
    simp only [CliConfig.accepted, hmaster, hclients, Bool.true_and, Bool.and_true]
    exact withoutModel_accepted_iff hrow hgateway hfree

/-- Two enabled providers with one model each. -/
def twoProviders : CliConfig where
  masterKeyRef := "MASTER_KEY"
  gateway :=
    { providers := ⟨[("anthropic-primary", ⟨.anthropic, "ANTHROPIC_API_KEY", true, none, false⟩),
        ("google-primary", ⟨.google, "GOOGLE_API_KEY", true, none, false⟩)], by decide⟩
      models := ⟨[("anthropic-model", ⟨"anthropic-primary", "claude-sonnet-4-5", none, ⟨none, none, none⟩, plainPolicy⟩),
        ("google-model", ⟨"google-primary", "gemini-pro", none, ⟨none, none, none⟩, plainPolicy⟩)], by decide⟩ }
  clients := oneClient.config.clients

theorem twoProviders_accepted : twoProviders.accepted = true := by decide +kernel

theorem twoProviders_fallback {modelAlias : String} {model : GatewayModelConfig}
    (h : twoProviders.gateway.models.get? modelAlias = some model) : model.fallback = none := by
  have hmem := JsMap.mem_entries.mpr h
  simp only [twoProviders, List.mem_cons, List.not_mem_nil, or_false, Prod.mk.injEq] at hmem
  obtain ⟨-, rfl⟩ | ⟨-, rfl⟩ := hmem <;> rfl

/-- With the one disabled the model of the other stays; its model cannot be removed. -/
theorem preview_agrees_twoProviders :
    twoProviders.accepted = true ∧
    (∃ effective, effective.models.entries.length = 1 ∧
      buildEffectiveGatewayConfig (GatewayConfig.withDisabled twoProviders.gateway {"google-primary"}) none =
        .ok effective) ∧
    CliConfig.accepted { twoProviders with
      gateway := GatewayConfig.withoutModel twoProviders.gateway "google-model" } = false := by
  have hagrees := preview_agrees twoProviders twoProviders_accepted
  refine ⟨twoProviders_accepted, hagrees.1 {"google-primary"} none, ?_⟩
  have hfree : ∀ other model, twoProviders.gateway.models.get? other = some model →
      model.fallback ≠ some "google-model" := by
    intro other model hother
    rw [twoProviders_fallback hother]
    simp
  have hiff := hagrees.2 "google-model" _ rfl hfree
  rw [← Bool.not_eq_true, hiff]
  decide

end AiGateway.Cli
