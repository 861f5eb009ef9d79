import AiGateway.Config.FallbackChain
import AiGateway.Lib.Fallible
import AiGateway.Providers.Registry

/- From the YAML to `resolve`: the schema, the filter that drops the models of disabled
   providers and the registry each look names up in plain objects. The schema asks
   `hasOwnProperty` for a model's provider, but only `!models[fallback]` for its fallback, and
   `resolve` asks the same, so a fallback may be the name of a member of `Object.prototype`.

   `resolves_with_fallbacks_iff`: every active alias resolves, to a fallback that resolves, if
   and only if no active alias has such a name for a fallback that is no active alias.
   `constructor_fallback_fails` is a fallback that `resolve` hands out and then cannot resolve. -/
namespace AiGateway

/-- Every enabled provider instance is registered with its configured type. -/
def RegisteredAs (raw : GatewayConfig) (reg : ProviderRegistry) : Prop :=
  ∀ id row, raw.providers.get? id = some row → row.enabled = true →
    ∃ entry, reg.instances.get? id = some entry ∧ entry.type = row.type

/-- The alias resolves, and what it falls back to is another alias that resolves. -/
def ResolvesWithFallback (reg : ProviderRegistry) (modelAlias : String) : Prop :=
  ∃ resolved, reg.resolve modelAlias = .ok resolved ∧
    ∀ fallback, resolved.fallbackAlias = some fallback →
      fallback ≠ modelAlias ∧ Fallible.Succeeds (reg.resolve fallback)

/-- An alias of the YAML whose provider is enabled. -/
def ActiveAlias (raw : GatewayConfig) (modelAlias : String) (row : GatewayModelConfig) : Prop :=
  raw.models.get? modelAlias = some row ∧ modelActive raw row = true

/-- No active alias falls back to an inherited name: one of `Object.prototype` that is not an
active alias itself. -/
def FallbacksNotInherited (raw : GatewayConfig) : Prop :=
  ∀ modelAlias row fallback, ActiveAlias raw modelAlias row → row.fallback = some fallback →
    fallback ∈ objectPrototypeMembers → ∃ target, ActiveAlias raw fallback target

/-! ## The effective configuration -/

/-- The effective configuration keeps the active aliases and the enabled providers. -/
theorem buildEffectiveGatewayConfig_ok {raw effective : GatewayConfig} {secretsError : Option String}
    (h : buildEffectiveGatewayConfig raw secretsError = .ok effective) :
    effective = ⟨keepEntries raw.providers ProviderRow.enabled, keepEntries raw.models (modelActive raw)⟩ := by
  unfold buildEffectiveGatewayConfig at h
  simp only at h
  split at h
  · cases h
  · split at h
    · cases h
    · split at h
      · cases h
      · cases h
        rfl

/-! ## What `resolve` does with each name -/

section Resolve
variable {raw : GatewayConfig} {reg : ProviderRegistry}
  (haccepted : raw.accepted = true)
  (hgateway : reg.gateway = ⟨keepEntries raw.providers ProviderRow.enabled, keepEntries raw.models (modelActive raw)⟩)
  (hregistered : RegisteredAs raw reg)

include hgateway in
theorem get?_effective_models {modelAlias : String} {row : GatewayModelConfig} :
    reg.gateway.models.get? modelAlias = some row ↔ ActiveAlias raw modelAlias row := by
  rw [hgateway]
  exact get?_keepEntries

include haccepted in
/-- The provider of an active alias is there, own and enabled. -/
theorem provider_of_activeAlias {modelAlias : String} {row : GatewayModelConfig} (h : ActiveAlias raw modelAlias row) :
    ∃ provider, raw.providers.get? row.providerInstance = some provider ∧ provider.enabled = true := by
  have hmodel := raw.accepted_model haccepted h.1
  simp only [modelAccepted, Bool.and_eq_true] at hmodel
  obtain ⟨provider, hprovider⟩ := Option.isSome_iff_exists.mp hmodel.2
  refine ⟨provider, hprovider, ?_⟩
  have hactive := h.2
  unfold modelActive at hactive
  rw [property_of_get? hprovider] at hactive
  exact hactive

include haccepted hgateway hregistered in
theorem resolve_of_activeAlias {modelAlias : String} {row : GatewayModelConfig} (h : ActiveAlias raw modelAlias row) :
    ∃ resolved, reg.resolve modelAlias = .ok resolved ∧ resolved.fallbackAlias = reg.keptFallback row := by
  obtain ⟨provider, hprovider, henabled⟩ := provider_of_activeAlias haccepted h
  obtain ⟨entry, hentry, htype⟩ := hregistered _ _ hprovider henabled
  have hown : property reg.gateway.providers row.providerInstance = .own provider := by
    apply property_of_get?
    rw [hgateway]
    exact get?_keepEntries.mpr ⟨hprovider, henabled⟩
  have hmodel : reg.resolveModelAlias modelAlias = .ok (some row) := by
    unfold ProviderRegistry.resolveModelAlias
    rw [property_of_get? ((get?_effective_models hgateway).mpr h)]
  have hinstance : reg.resolveProviderEntry row = .ok entry := by
    simp only [ProviderRegistry.resolveProviderEntry, hown, hentry, htype, ne_eq, not_true_eq_false, if_false]
  refine ⟨_, Fallible.bind_eq_ok.mpr ⟨_, hmodel, Fallible.bind_eq_ok.mpr ⟨_, hinstance, rfl⟩⟩, rfl⟩

include hgateway in
/-- Any other name fails: it is missing, or a member without `providerInstance`. -/
theorem resolve_of_not_activeAlias {modelAlias : String} (h : ¬ ∃ row, ActiveAlias raw modelAlias row) :
    ¬ Fallible.Succeeds (reg.resolve modelAlias) := by
  have hnone : reg.gateway.models.get? modelAlias = none := by
    rw [Option.eq_none_iff_forall_not_mem]
    intro row hrow
    exact h ⟨row, (get?_effective_models hgateway).mp hrow⟩
  unfold ProviderRegistry.resolve ProviderRegistry.resolveModelAlias
  rw [property_of_not_own hnone]
  by_cases hmember : modelAlias ∈ objectPrototypeMembers
  · rw [if_pos hmember]
    exact Fallible.not_succeeds_error _
  · rw [if_neg hmember]
    exact Fallible.not_succeeds_error _

include haccepted hgateway hregistered in
theorem resolve_succeeds_iff (modelAlias : String) :
    Fallible.Succeeds (reg.resolve modelAlias) ↔ ∃ row, ActiveAlias raw modelAlias row := by
  constructor
  · intro hsucceeds
    by_contra hnone
    exact resolve_of_not_activeAlias hgateway hnone hsucceeds
  · rintro ⟨row, hrow⟩
    obtain ⟨resolved, hresolved, -⟩ := resolve_of_activeAlias haccepted hgateway hregistered hrow
    exact ⟨resolved, hresolved⟩

include haccepted hgateway in
/-- The fallback of an active alias is handed out when it is active or inherited. -/
theorem keptFallback_eq_some {modelAlias fallback : String} {row : GatewayModelConfig}
    (h : ActiveAlias raw modelAlias row) :
    reg.keptFallback row = some fallback ↔
      row.fallback = some fallback ∧ ((∃ target, ActiveAlias raw fallback target) ∨ fallback ∈ objectPrototypeMembers) := by
  have hmodel := raw.accepted_model haccepted h.1
  simp only [modelAccepted, Bool.and_eq_true] at hmodel
  cases hrow : row.fallback with
  | none => simp [ProviderRegistry.keptFallback, JsString.truthy, hrow]
  | some name =>
    have hname : name ≠ "" := by simpa [hrow] using hmodel.1.1.1.2
    unfold ProviderRegistry.keptFallback
    rw [hrow, JsString.truthy_some, if_neg hname]
    cases hget : reg.gateway.models.get? name with
    | some target =>
      have hactive := (get?_effective_models hgateway).mp hget
      simp only [property_of_get? hget, Option.some_inj]
      constructor
      · rintro rfl
        exact ⟨rfl, .inl ⟨target, hactive⟩⟩
      · exact fun hsame => hsame.1
    | none =>
      have hinactive : ¬ ∃ target, ActiveAlias raw name target := by
        rintro ⟨target, htarget⟩
        rw [(get?_effective_models hgateway).mpr htarget] at hget
        cases hget
      have hproperty := property_of_not_own hget
      -- What is no own entry may still be a member that every object inherits.
      by_cases hmember : name ∈ objectPrototypeMembers
      · simp only [hproperty, if_pos hmember, Option.some_inj]
        constructor
        · rintro rfl
          exact ⟨rfl, .inr hmember⟩
        · exact fun hsame => hsame.1
      · simp only [hproperty, if_neg hmember, Option.some_inj, reduceCtorEq, false_iff, not_and]
        rintro rfl
        exact not_or.mpr ⟨hinactive, hmember⟩

include haccepted in
/-- The schema refuses an alias as its own fallback. -/
theorem fallback_ne_of_activeAlias {modelAlias fallback : String} {row : GatewayModelConfig}
    (h : ActiveAlias raw modelAlias row) (hfallback : row.fallback = some fallback) : fallback ≠ modelAlias := by
  rintro rfl
  apply fallbackOf_ne_self haccepted fallback
  unfold fallbackOf
  rw [property_of_get? h.1]
  exact hfallback

include haccepted hgateway hregistered in
/-- For one alias: its fallback is active, or no name of `Object.prototype`. -/
theorem resolvesWithFallback_iff {modelAlias : String} {row : GatewayModelConfig} (h : ActiveAlias raw modelAlias row) :
    ResolvesWithFallback reg modelAlias ↔
      ∀ fallback, row.fallback = some fallback → fallback ∈ objectPrototypeMembers →
        ∃ target, ActiveAlias raw fallback target := by
  obtain ⟨resolved, hresolved, hkept⟩ := resolve_of_activeAlias haccepted hgateway hregistered h
  constructor
  · rintro ⟨resolved', hresolved', hfallbacks⟩ fallback hfallback hmember
    rw [hresolved] at hresolved'
    cases hresolved'
    have hgiven : resolved.fallbackAlias = some fallback := by
      rw [hkept, keptFallback_eq_some haccepted hgateway h]
      exact ⟨hfallback, .inr hmember⟩
    exact (resolve_succeeds_iff haccepted hgateway hregistered fallback).mp (hfallbacks fallback hgiven).2
  · intro hcondition
    refine ⟨resolved, hresolved, ?_⟩
    intro fallback hgiven
    rw [hkept, keptFallback_eq_some haccepted hgateway h] at hgiven
    refine ⟨fallback_ne_of_activeAlias haccepted h hgiven.1, ?_⟩
    rw [resolve_succeeds_iff haccepted hgateway hregistered]
    exact hgiven.2.elim id (hcondition fallback hgiven.1)

end Resolve

theorem resolves_with_fallbacks_iff (raw effective : GatewayConfig) (secretsError : Option String)
    (reg : ProviderRegistry) (haccepted : raw.accepted = true)
    (hbuild : buildEffectiveGatewayConfig raw secretsError = .ok effective) (hgateway : reg.gateway = effective)
    (hregistered : RegisteredAs raw reg) :
    (∀ modelAlias row, effective.models.get? modelAlias = some row → ResolvesWithFallback reg modelAlias) ↔
      FallbacksNotInherited raw := by
  rw [buildEffectiveGatewayConfig_ok hbuild] at hgateway
  have hactive := @get?_effective_models raw reg hgateway
  rw [buildEffectiveGatewayConfig_ok hbuild, ← hgateway]
  constructor
  · intro hall modelAlias row fallback hrow
    exact (resolvesWithFallback_iff haccepted hgateway hregistered hrow).mp
      (hall modelAlias row (hactive.mpr hrow)) fallback
  · intro hcondition modelAlias row hrow
    rw [resolvesWithFallback_iff haccepted hgateway hregistered (hactive.mp hrow)]
    exact fun fallback => hcondition modelAlias row fallback (hactive.mp hrow)

/-! ## A fallback to `constructor` -/

/-- The instances that `ProviderInstancesBootstrap` makes are registered as configured. -/
theorem registeredAs_bootstrap {raw effective : GatewayConfig} {secretsError : Option String}
    (hbuild : buildEffectiveGatewayConfig raw secretsError = .ok effective) :
    RegisteredAs raw (.bootstrap effective) := by
  intro id row hrow henabled
  rw [buildEffectiveGatewayConfig_ok hbuild]
  refine ⟨⟨id, row.type, true⟩, ?_, rfl⟩
  rw [← JsMap.mem_entries]
  exact List.mem_map.mpr ⟨(id, row), List.mem_filter.mpr ⟨JsMap.mem_entries.mpr hrow, henabled⟩, rfl⟩

theorem chainConfig_effective : buildEffectiveGatewayConfig chainConfig none = .ok chainConfig := rfl

theorem chainConfig_resolves_iff :
    chainConfig.accepted = true ∧ buildEffectiveGatewayConfig chainConfig none = .ok chainConfig ∧
      ((∀ modelAlias row, chainConfig.models.get? modelAlias = some row →
          ResolvesWithFallback (.bootstrap chainConfig) modelAlias) ↔ FallbacksNotInherited chainConfig) :=
  ⟨by decide +kernel, rfl,
    resolves_with_fallbacks_iff chainConfig chainConfig none (.bootstrap chainConfig) (by decide +kernel) rfl rfl
      (registeredAs_bootstrap chainConfig_effective)⟩

/-- "chat-large" with the fallback "constructor". -/
def constructorConfig : GatewayConfig where
  providers := chainConfig.providers
  models := ⟨[("chat-large", fallbackModel (some "constructor"))], by decide⟩

theorem constructor_fallback_fails :
    ¬ ∀ (raw effective : GatewayConfig) (secretsError : Option String) (reg : ProviderRegistry),
      raw.accepted = true → buildEffectiveGatewayConfig raw secretsError = .ok effective → reg.gateway = effective →
      RegisteredAs raw reg →
      ∀ modelAlias row, effective.models.get? modelAlias = some row → ResolvesWithFallback reg modelAlias := by
  intro hclaim
  have hbuild : buildEffectiveGatewayConfig constructorConfig none = .ok constructorConfig := rfl
  obtain ⟨resolved, hresolved, hfallback⟩ := hclaim constructorConfig constructorConfig none (.bootstrap constructorConfig)
    (by decide +kernel) hbuild rfl (registeredAs_bootstrap hbuild) "chat-large" _ rfl
  cases hresolved
  obtain ⟨-, resolved', hresolved'⟩ := hfallback "constructor" rfl
  cases hresolved'

end AiGateway
