import AiGateway.Cli.EditModel
import AiGateway.Cli.Managers

/- Edits that leave a configuration the gateway does not start with: removing the last model,
   moving the last model of an enabled provider away, removing the only active provider. The
   CLI asks for a confirmation, says that the configuration "will be saved in a non-bootable
   state" and then skips the effective check; but `persistConfig` asks `GatewayConfigSchema` all
   the same, which wants a model at all and one for every enabled provider.

   `confirmed_edit_saved_iff`: only the removal of a provider is ever saved, when a model of
   another instance remains. `last_model_not_removed` is a confirmed edit that fails. -/
namespace AiGateway.Cli

/-- `deleteModelPrompt` catches what it throws. -/
def applyRemoveModel (secrets : GatewayConfig → EnvText → Option String) (state : CliState) (modelAlias : String) :
    Except EditError CliState :=
  let gateway := state.config.gateway
  match property gateway.models modelAlias with
  | .missing => .error (.modelNotFound modelAlias)
  | _ =>
    let last := isLastModelInConfig gateway modelAlias || isLastModelForEnabledProvider gateway modelAlias
    persistEdit secrets { state with
      config := { state.config with gateway := GatewayConfig.withoutModel gateway modelAlias } } last

inductive ConfirmedEdit where
  | removeModel (modelAlias : String)
  | moveModel (input : EditModelInput)
  | removeProvider (instanceId : String)

/-- The edits that are confirmed as leaving the configuration non-bootable; no fallback of a
model that stays is taken away. -/
def ConfirmedEdit.NonBootable (gateway : GatewayConfig) : ConfirmedEdit → Prop
  | .removeModel modelAlias => (∃ row, gateway.models.get? modelAlias = some row) ∧
      (isLastModelInConfig gateway modelAlias = true ∨ isLastModelForEnabledProvider gateway modelAlias = true) ∧
      ∀ other model, gateway.models.get? other = some model → other ≠ modelAlias → model.fallback ≠ some modelAlias
  | .moveModel input => ∃ row target provider, gateway.models.get? input.modelAlias = some row ∧
      input.providerInstance = some target ∧ target ≠ row.providerInstance ∧
      gateway.providers.get? target = some provider ∧ input.confirmNonBootable = true ∧
      isLastModelForEnabledProvider gateway input.modelAlias = true
  | .removeProvider instanceId => isOnlyActive gateway instanceId = true ∧
      ∀ other model, gateway.models.get? other = some model → model.providerInstance ≠ instanceId →
        ∀ fallback target, model.fallback = some fallback → gateway.models.get? fallback = some target →
          target.providerInstance ≠ instanceId

/-- The edit ends without an error, and the configuration written is the changed one. -/
def ConfirmedEdit.Saved (secrets : GatewayConfig → EnvText → Option String) (state : CliState) : ConfirmedEdit → Prop
  | .removeModel modelAlias => ∃ saved, applyRemoveModel secrets state modelAlias = .ok saved ∧
      saved.config.gateway = GatewayConfig.withoutModel state.config.gateway modelAlias
  | .moveModel input => ∃ saved row, applyEditModel secrets state input = .ok saved ∧
      saved.config.gateway.models.get? input.modelAlias = some row ∧ input.providerInstance = some row.providerInstance
  | .removeProvider instanceId => ∃ saved, applyRemoveProvider secrets state instanceId = .ok saved ∧
      saved.config.gateway = GatewayConfig.withoutProvider state.config.gateway instanceId

/-- A provider is removed, and a model of another instance is there. -/
def ConfirmedEdit.LeavesModel (gateway : GatewayConfig) : ConfirmedEdit → Prop
  | .removeProvider instanceId =>
    ∃ other model, gateway.models.get? other = some model ∧ model.providerInstance ≠ instanceId
  | .removeModel _ | .moveModel _ => False

/-! ## Models: the schema refuses what is left -/

section Models
variable {secrets : GatewayConfig → EnvText → Option String} {state saved : CliState}

theorem removeModel_fails {modelAlias : String} (haccepted : state.config.accepted = true)
    (h : (ConfirmedEdit.removeModel modelAlias).NonBootable state.config.gateway) :
    applyRemoveModel secrets state modelAlias ≠ .ok saved := by
  obtain ⟨⟨row, hrow⟩, hlast, hothers⟩ := h
  intro hremove
  have hgateway := gateway_accepted haccepted
  have hfree : ∀ other model, state.config.gateway.models.get? other = some model →
      model.fallback ≠ some modelAlias := by
    intro other model hother hfallback
    by_cases hsame : other = modelAlias
    · subst hsame
      apply fallbackOf_ne_self hgateway other
      unfold fallbackOf
      rw [property_of_get? hother]
      exact hfallback
    · exact hothers other model hother hsame hfallback
  unfold applyRemoveModel at hremove
  simp only [property_of_get? hrow] at hremove
  obtain ⟨rfl, hsaved⟩ := persistEdit_ok hremove
  have hnone := (withoutModel_accepted_iff hrow hgateway hfree).mp (gateway_accepted hsaved)
  obtain hlast | hlast := hlast
  · cases hlast.symm.trans hnone.1
  · cases hlast.symm.trans hnone.2

theorem moveModel_fails {input : EditModelInput} (haccepted : state.config.accepted = true)
    (h : (ConfirmedEdit.moveModel input).NonBootable state.config.gateway) :
    applyEditModel secrets state input ≠ .ok saved := by
  obtain ⟨row, target, -, hrow, htarget, hne, -, -, hlast⟩ := h
  intro hedit
  obtain ⟨edited, skip, heditRow, hgateway, hsaved⟩ := applyEditModel_ok hrow hedit
  obtain ⟨⟨provider, hprovider, henabled⟩, honly⟩ :=
    (isLastModelForEnabledProvider_iff hrow (gateway_accepted haccepted)).mp hlast
  obtain ⟨-, -, -, -, hidle⟩ := (gatewayAccepted_iff _).mp (gateway_accepted hsaved)
  rw [hgateway] at hidle
  -- the source is still enabled, so it would need a model
  obtain ⟨other, model, hother, hinstance⟩ := hidle row.providerInstance provider hprovider henabled
  by_cases hsame : other = input.modelAlias
  · subst hsame
    rw [JsMap.get?_set_self] at hother
    cases hother
    apply hne
    rw [← hinstance, (editRow_ok heditRow).providerInstance, htarget, Option.getD_some]
  · rw [JsMap.get?_set_ne _ _ hsame] at hother
    exact hsame (honly other model hother hinstance)

end Models

/-! ## Providers: it depends on the models of the others -/

section Provider
variable {secrets : GatewayConfig → EnvText → Option String} {state : CliState} {instanceId : String}

theorem onlyActive_spec {gateway : GatewayConfig} (h : isOnlyActive gateway instanceId = true) :
    (∃ row, gateway.providers.get? instanceId = some row) ∧
      ∀ id row, gateway.providers.get? id = some row → row.enabled = true → id = instanceId := by
  unfold isOnlyActive at h
  split at h
  · next id row hactive =>
    obtain rfl : id = instanceId := of_decide_eq_true h
    have hmem : ∀ e, e ∈ gateway.providers.entries.filter (fun e => e.2.enabled) ↔ e = (id, row) := by
      intro e
      rw [hactive, List.mem_singleton]
    refine ⟨⟨row, ?_⟩, ?_⟩
    · exact JsMap.mem_entries.mp (List.mem_filter.mp ((hmem _).mpr rfl)).1
    · intro other row' hother henabled
      have heq := (hmem _).mp (List.mem_filter.mpr ⟨JsMap.mem_entries.mpr hother, henabled⟩)
      exact (Prod.mk.inj heq).1
  · cases h

/-- What is left is accepted when a model is left: no instance that is left is enabled. -/
theorem withoutProvider_accepted_iff {gateway : GatewayConfig} (haccepted : gateway.accepted = true)
    (h : (ConfirmedEdit.removeProvider instanceId).NonBootable gateway) :
    (GatewayConfig.withoutProvider gateway instanceId).accepted = true ↔
      (ConfirmedEdit.removeProvider instanceId).LeavesModel gateway := by
  obtain ⟨honly, hfree⟩ := h
  obtain ⟨-, hactive⟩ := onlyActive_spec honly
  obtain ⟨hrows, hrefs, hmodels, -, -⟩ := (gatewayAccepted_iff gateway).mp haccepted
  have hmodel : ∀ other model,
      (GatewayConfig.withoutProvider gateway instanceId).models.get? other = some model ↔
        gateway.models.get? other = some model ∧ model.providerInstance ≠ instanceId := by
    intro other model
    rw [GatewayConfig.withoutProvider, get?_keepEntries, decide_eq_true_iff]
  have hprovider : ∀ id row, (GatewayConfig.withoutProvider gateway instanceId).providers.get? id = some row ↔
      id ≠ instanceId ∧ gateway.providers.get? id = some row := by
    intro id row
    exact JsMap.get?_erase
  rw [gatewayAccepted_iff]
  simp only [hmodel, hprovider, ConfirmedEdit.LeavesModel]
  constructor
  · exact fun hleft => hleft.2.2.2.1
  · intro hleft
    refine ⟨fun id row hrow => hrows id row hrow.2, ?_, ?_, hleft, ?_⟩
    · exact refsAccepted_sublist List.filter_sublist (fun _ hfree => hfree) hrefs
    · intro other model hother
      rw [← hmodels other model hother.1]
      refine modelAccepted_congr ?_ ?_
      -- No model that stays falls back on one that goes.
      · intro fallback hfallback
        apply Option.ext
        intro target
        rw [hmodel]
        exact and_iff_left_of_imp (hfree other model hother.1 hother.2 fallback target hfallback)
      · apply Option.ext
        intro row
        rw [hprovider]
        exact and_iff_right hother.2
    · intro id row hrow henabled
      exact absurd (hactive id row hrow.2 henabled) hrow.1

/-- Without the effective check the schema alone decides. -/
theorem persistRemaining_succeeds_iff (remaining : CliState) :
    Fallible.Succeeds (persistRemaining secrets remaining true) ↔ remaining.config.accepted = true := by
  constructor
  · rintro ⟨persisted, h⟩
    by_contra hrefused
    rw [Bool.not_eq_true] at hrefused
    have hschema : ∀ skip, persistConfig secrets remaining skip false = .error .schema := by
      intro skip
      unfold persistConfig
      rw [hrefused]
      rfl
    simp [persistRemaining, hschema] at h
  · intro haccepted
    have hskipped : persistConfig secrets remaining true false = .ok remaining := by
      unfold persistConfig
      rw [haccepted]
      rfl
    unfold persistRemaining
    split
    · exact Fallible.succeeds_ok _
    · rw [if_pos rfl, hskipped]
      exact Fallible.succeeds_ok _

theorem removeProvider_saved_iff (haccepted : state.config.accepted = true)
    (h : (ConfirmedEdit.removeProvider instanceId).NonBootable state.config.gateway) :
    (ConfirmedEdit.removeProvider instanceId).Saved secrets state ↔
      (ConfirmedEdit.removeProvider instanceId).LeavesModel state.config.gateway := by
  obtain ⟨row, hrow⟩ := (onlyActive_spec h.1).1
  have hleft := withoutProvider_accepted_iff (gateway_accepted haccepted) h
  have hconfig : CliConfig.accepted { state.config with
      gateway := GatewayConfig.withoutProvider state.config.gateway instanceId } =
        (GatewayConfig.withoutProvider state.config.gateway instanceId).accepted := by
    simp only [CliConfig.accepted, Bool.and_eq_true] at haccepted
    simp only [CliConfig.accepted, haccepted.1.1, haccepted.2, Bool.true_and, Bool.and_true]
  rw [← hleft, ← hconfig, ← @persistRemaining_succeeds_iff secrets { state with config :=
    { state.config with gateway := GatewayConfig.withoutProvider state.config.gateway instanceId } }]
  unfold ConfirmedEdit.Saved applyRemoveProvider
  simp only [property_of_get? hrow, h.1]
  constructor
  · rintro ⟨saved, hsaved, -⟩
    split at hsaved
    · cases hsaved
    · next persisted hpersist => exact ⟨persisted, hpersist⟩
  · rintro ⟨persisted, hpersist⟩
    rw [hpersist]
    exact ⟨_, rfl, by rw [persistRemaining_ok hpersist]⟩

end Provider

/-- A confirmed edit is saved exactly when it removes a provider and leaves a model. -/
theorem confirmed_edit_saved_iff (secrets : GatewayConfig → EnvText → Option String) (state : CliState)
    (edit : ConfirmedEdit) (haccepted : state.config.accepted = true)
    (hedit : edit.NonBootable state.config.gateway) :
    edit.Saved secrets state ↔ edit.LeavesModel state.config.gateway := by
  cases edit with
  | removeModel modelAlias =>
    refine ⟨?_, False.elim⟩
    rintro ⟨saved, hsaved, -⟩
    exact removeModel_fails haccepted hedit hsaved
  | moveModel input =>
    refine ⟨?_, False.elim⟩
    rintro ⟨saved, row, hsaved, -⟩
    exact moveModel_fails haccepted hedit hsaved
  | removeProvider instanceId => exact removeProvider_saved_iff haccepted hedit

/-- One active provider, and a disabled one with a model. -/
def oneActive : CliState where
  config := { twoProviders with gateway := GatewayConfig.withDisabled twoProviders.gateway {"google-primary"} }
  env := []

/-- The only active provider is removed: the schema takes the model of the disabled one. -/
theorem confirmed_edit_saved_iff_provider :
    oneActive.config.accepted = true ∧
      (ConfirmedEdit.removeProvider "anthropic-primary").Saved noSecretsMissing oneActive := by
  have haccepted : oneActive.config.accepted = true := by decide +kernel
  refine ⟨haccepted, (confirmed_edit_saved_iff noSecretsMissing oneActive (.removeProvider "anthropic-primary")
    haccepted ⟨by decide, ?_⟩).mpr ⟨"google-model", _, rfl, by decide⟩⟩
  intro other model hother _ fallback target hfallback
  rw [twoProviders_fallback hother] at hfallback
  cases hfallback

/-- The last model of an enabled provider: the removal is confirmed, and the schema refuses it. -/
theorem last_model_not_removed :
    ¬ ∀ (secrets : GatewayConfig → EnvText → Option String) (state : CliState) (edit : ConfirmedEdit),
      state.config.accepted = true → edit.NonBootable state.config.gateway → edit.Saved secrets state := by
  intro hclaim
  obtain ⟨saved, hsaved, -⟩ := hclaim noSecretsMissing ⟨twoProviders, []⟩ (.removeModel "google-model")
    twoProviders_accepted ⟨⟨_, rfl⟩, .inr (by decide), by
      intro other model hother hne hfallback
      rw [twoProviders_fallback hother] at hfallback
      cases hfallback⟩
  have hfails : (applyRemoveModel noSecretsMissing ⟨twoProviders, []⟩ "google-model").toOption.isSome = false := by
    decide +kernel
  rw [hsaved] at hfails
  cases hfails

end AiGateway.Cli
