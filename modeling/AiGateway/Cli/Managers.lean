import AiGateway.Cli.AtomicAdd

/- `ProviderManagerService` and `ClientManagerService`: the commands that add and remove one
   provider instance or one client, in `gateway.config.yaml` and in `.env` together. The
   variable names are derived from the ids by slugs that lose characters, every kind of
   reference (`masterKeyRef`, `apiKeyRef`, `baseUrlRef`, `gatewayKeyRef`) names a variable in
   the one `.env`, and only two equal `apiKeyRef`s are refused: an operation on one entry can
   rewrite or delete another entry's secret. `secrets_kept_iff` is the exact extent for the
   operations that succeed. The additions are those of `AtomicAdd`; here no file operation
   throws. -/
namespace AiGateway.Cli

open Adding (AddError World)

/-! ## The operations -/

section Operations
variable (secrets : GatewayConfig → EnvText → Option String)        -- what the effective check throws for a missing secret
variable (modelRow : Option ProviderType → String → String → GatewayModelConfig)   -- the row `applyAddModel` builds

/-- How an operation ends; one that throws leaves `gateway.config.yaml` alone, and `.env` as given. -/
abbrev MutationEnd := Except (AddError × EnvText) CliState

/-- The end of an addition. -/
def additionEnd : World CliConfig × Option AddError → MutationEnd
  | (world, none) => .ok ⟨world.config, world.env⟩
  | (world, some e) => .error (e, world.env)

def CliState.add (state : CliState) (addition : Adding.Addition) : MutationEnd :=
  additionEnd (addition.apply secrets modelRow id Adding.workingFiles ⟨state.config, some state.config, state.env⟩)

/-- The rows and linked models `applyRemoveProvider` leaves. -/
def GatewayConfig.withoutProvider (gateway : GatewayConfig) (instanceId : String) : GatewayConfig where
  providers := gateway.providers.erase instanceId
  models := keepEntries gateway.models fun model => model.providerInstance ≠ instanceId

/-- The removed row is the only active one. -/
def isOnlyActive (gateway : GatewayConfig) (instanceId : String) : Bool :=
  match gateway.providers.entries.filter fun (_, row) => row.enabled with
  | [(id, _)] => id = instanceId
  | _ => false

/-- The `removeVar` calls of `applyRemoveProvider`. -/
def removeProviderPatches (gateway : GatewayConfig) (instanceId : String) : List EnvPatch :=
  match property gateway.providers instanceId with
  | .missing => []
  | .inherited => [.remove undefinedText]
  | .own row => .remove row.apiKeyRef :: (JsString.truthy row.baseUrlRef).toList.map .remove

/-- `persistConfig` of the remaining configuration, without the effective check when it fails for
want of an active provider. -/
def persistRemaining (remaining : CliState) (onlyActive : Bool) : Except CliError CliState :=
  match persistConfig secrets remaining false false with
  | .ok persisted => .ok persisted
  | .error e => if onlyActive then persistConfig secrets remaining true false else .error e

def applyRemoveProvider (state : CliState) (instanceId : String) : MutationEnd :=
  match property state.config.gateway.providers instanceId with
  | .missing => .error (.refused (.instanceNotFound instanceId), state.env)
  | _ =>
    let config := { state.config with gateway := GatewayConfig.withoutProvider state.config.gateway instanceId }
    match persistRemaining secrets { state with config := config } (isOnlyActive state.config.gateway instanceId) with
    | .error e => .error (.refused e, state.env)
    | .ok persisted =>
      .ok { persisted with env := EnvPatch.applyAll (removeProviderPatches state.config.gateway instanceId) persisted.env }

/-- The `removeVar` call of `applyRemoveClient`. -/
def removeClientPatches (config : CliConfig) (clientId : String) : List EnvPatch :=
  match property config.clients clientId with
  | .missing => []
  | .inherited => [.remove undefinedText]
  | .own row => [.remove row.gatewayKeyRef]

def applyRemoveClient (state : CliState) (clientId : String) : MutationEnd :=
  match property state.config.clients clientId with
  | .missing => .error (.refused (.clientNotFound clientId), state.env)
  | _ =>
    let config := { state.config with clients := state.config.clients.erase clientId }
    match persistConfig secrets { state with config := config } false false with
    | .error e => .error (.refused e, state.env)
    | .ok persisted =>
      .ok { persisted with env := EnvPatch.applyAll (removeClientPatches state.config clientId) persisted.env }

/-- The four operations. -/
inductive Mutation where
  | addProvider (input : AddProviderInput)
  | removeProvider (id : String)
  | addClient (input : AddClientInput)
  | removeClient (id : String)

def Mutation.apply (state : CliState) : Mutation → MutationEnd
  | .addProvider input => state.add secrets modelRow (.provider input)
  | .removeProvider id => applyRemoveProvider secrets state id
  | .addClient input => state.add secrets modelRow (.client input)
  | .removeClient id => applyRemoveClient secrets state id

end Operations

/-! ## The variables of the other entries -/

/-- The entry an operation is on. -/
inductive Entry where
  | provider (id : String)
  | client (id : String)
  deriving DecidableEq, Repr

def Mutation.entry : Mutation → Entry
  | .addProvider input => .provider input.id
  | .removeProvider id => .provider id
  | .addClient input => .client input.id
  | .removeClient id => .client id

def providerRefs (providers : List (String × ProviderRow)) : List String :=
  providers.flatMap fun (_, row) => row.apiKeyRef :: row.baseUrlRef.toList

def clientRefs (clients : List (String × GatewayClientConfig)) : List String :=
  clients.map fun (_, row) => row.gatewayKeyRef

/-- Every variable the configuration references outside one entry. -/
def CliConfig.otherRefs (config : CliConfig) : Entry → List String
  | .provider id => config.masterKeyRef ::
      (providerRefs (config.gateway.providers.entries.filter fun e => e.1 ≠ id) ++ clientRefs config.clients.entries)
  | .client id => config.masterKeyRef ::
      (providerRefs config.gateway.providers.entries ++ clientRefs (config.clients.entries.filter fun e => e.1 ≠ id))

/-- The writes an operation makes to `.env`, in their order. -/
def Mutation.patches (config : CliConfig) : Mutation → List EnvPatch
  | .addProvider input => input.patches
  | .removeProvider id => removeProviderPatches config.gateway id
  | .addClient input => input.patches
  | .removeClient id => removeClientPatches config id

/-- The names of an added entry are the derived ones. -/
def Mutation.Derived (toUpper : Char → List Char) : Mutation → Prop
  | .addProvider input => input.apiKeyRef = deriveApiKeyRef toUpper input.id ∧
      input.baseUrlRef = if isOpenAiProviderType input.type then some (deriveBaseUrlRef toUpper input.id) else none
  | .addClient input => input.gatewayKeyRef = deriveGatewayKeyRef toUpper input.id
  | .removeProvider _ | .removeClient _ => True

/-- The secrets written fit on a line, and the names patched are names of variables. A derived
provider name always is one; a client's is when its id has no line break. -/
def Mutation.Plain (config : CliConfig) : Mutation → Prop
  | .addProvider input => SingleLine input.apiKey.toList ∧ SingleLine (input.baseUrl.getD "").toList
  | .addClient input => IsEnvName input.gatewayKeyRef ∧ SingleLine input.gatewayKey.toList
  | .removeProvider id => ∀ patch ∈ removeProviderPatches config.gateway id, IsEnvName patch.key
  | .removeClient id => ∀ patch ∈ removeClientPatches config id, IsEnvName patch.key

section Frame
variable {secrets : GatewayConfig → EnvText → Option String}
variable {modelRow : Option ProviderType → String → String → GatewayModelConfig}
variable {ends : Adding.FileEnds CliConfig} {state state' persisted : CliState}

theorem persistRemaining_ok {onlyActive : Bool} (h : persistRemaining secrets state onlyActive = .ok persisted) :
    persisted = state := by
  unfold persistRemaining at h
  split at h
  · next hpersist =>
    cases h
    exact persistConfig_ok hpersist
  · split at h
    · exact persistConfig_ok h
    · cases h

/-- A new row is under its own key. -/
theorem filter_set_of_missing {ν : Type} {object : JsMap String ν} {id : String} {value : ν}
    (h : property object id = .missing) :
    ((object.set id value).entries.filter fun e => e.1 ≠ id) = object.entries.filter fun e => e.1 ≠ id := by
  have hnone : object.get? id = none := by
    unfold property at h
    split at h
    · cases h
    · assumption
  rw [JsMap.set_of_get?_none value hnone, List.filter_append]
  simp

theorem filter_erase {ν : Type} {object : JsMap String ν} {id : String} :
    ((object.erase id).entries.filter fun e => e.1 ≠ id) = object.entries.filter fun e => e.1 ≠ id := by
  unfold JsMap.erase
  rw [List.filter_filter]
  simp

/-- What a successful operation does: its patches to `.env`, and nothing to the references of
the other entries. -/
structure Mutation.Effect (m : Mutation) (state state' : CliState) : Prop where
  patched : m.patches state.config ≠ []
  env : state'.env = EnvPatch.applyAll (m.patches state.config) state.env
  otherRefs : state'.config.otherRefs m.entry = state.config.otherRefs m.entry

theorem addProvider_effect {input : AddProviderInput} {world world' : World CliConfig}
    (h : Adding.applyAddProvider secrets modelRow id ends world input = (world', none)) :
    (Mutation.addProvider input).Effect ⟨world.config, world.env⟩ ⟨world'.config, world'.env⟩ := by
  unfold Adding.applyAddProvider at h
  cases hproperty : property world.config.gateway.providers input.id with
  | own _ => simp [hproperty] at h
  | inherited => simp [hproperty] at h
  | missing =>
    simp only [hproperty] at h
    split at h
    · simp at h
    · have hproviders := @Adding.addModels_providers CliConfig modelRow ends input.id input.models
        { world.config.gateway with providers := world.config.gateway.providers.set input.id input.row }
      split at h
      · simp at h
      · next gateway hmodels =>
        rw [hmodels] at hproviders
        dsimp only at hproviders
        obtain ⟨hconfig, henv⟩ := Adding.commit_succeeds h
        refine ⟨List.cons_ne_nil _ _, henv, ?_⟩
        simp only [Mutation.entry, CliConfig.otherRefs, hconfig, hproviders, filter_set_of_missing hproperty]

theorem removeProvider_effect {id : String} (h : applyRemoveProvider secrets state id = .ok state') :
    (Mutation.removeProvider id).Effect state state' := by
  have hpatched : property state.config.gateway.providers id ≠ .missing →
      removeProviderPatches state.config.gateway id ≠ [] := by
    intro hne
    unfold removeProviderPatches
    split
    · next hmissing => exact absurd hmissing hne
    · exact List.cons_ne_nil _ _
    · exact List.cons_ne_nil _ _
  unfold applyRemoveProvider at h
  split at h
  · cases h
  · next hfound =>
    dsimp only at h
    split at h
    · cases h
    · next persisted hpersist =>
      cases h
      rw [persistRemaining_ok hpersist]
      refine ⟨hpatched hfound, rfl, ?_⟩
      simp only [Mutation.entry, CliConfig.otherRefs, GatewayConfig.withoutProvider, filter_erase]

theorem addClient_effect {input : AddClientInput} {world world' : World CliConfig}
    (h : Adding.applyAddClient secrets id ends world input = (world', none)) :
    (Mutation.addClient input).Effect ⟨world.config, world.env⟩ ⟨world'.config, world'.env⟩ := by
  unfold Adding.applyAddClient at h
  cases hproperty : property world.config.clients input.id with
  | own _ => simp [hproperty] at h
  | inherited => simp [hproperty] at h
  | missing =>
    simp only [hproperty] at h
    obtain ⟨hconfig, henv⟩ := Adding.commit_succeeds h
    refine ⟨List.cons_ne_nil _ _, henv, ?_⟩
    simp only [Mutation.entry, CliConfig.otherRefs, hconfig, filter_set_of_missing hproperty]

theorem removeClient_effect {id : String} (h : applyRemoveClient secrets state id = .ok state') :
    (Mutation.removeClient id).Effect state state' := by
  have hpatched : property state.config.clients id ≠ .missing → removeClientPatches state.config id ≠ [] := by
    intro hne
    unfold removeClientPatches
    split
    · next hmissing => exact absurd hmissing hne
    · exact List.cons_ne_nil _ _
    · exact List.cons_ne_nil _ _
  unfold applyRemoveClient at h
  split at h
  · cases h
  · next hfound =>
    dsimp only at h
    split at h
    · cases h
    · next persisted hpersist =>
      cases h
      rw [persistConfig_ok hpersist]
      refine ⟨hpatched hfound, rfl, ?_⟩
      simp only [Mutation.entry, CliConfig.otherRefs, filter_erase]

/-- An addition that goes through ends in the state of its files. -/
theorem additionEnd_ok {result : World CliConfig × Option AddError} (h : additionEnd result = .ok state') :
    ∃ world', result = (world', none) ∧ state' = ⟨world'.config, world'.env⟩ := by
  obtain ⟨world', error⟩ := result
  cases error with
  | none =>
    cases h
    exact ⟨world', rfl, rfl⟩
  | some e => cases h

theorem apply_effect {m : Mutation} (h : m.apply secrets modelRow state = .ok state') : m.Effect state state' := by
  cases m with
  | addProvider input =>
    obtain ⟨world', hadd, rfl⟩ := additionEnd_ok h
    exact addProvider_effect hadd
  | removeProvider id => exact removeProvider_effect h
  | addClient input =>
    obtain ⟨world', hadd, rfl⟩ := additionEnd_ok h
    exact addClient_effect hadd
  | removeClient id => exact removeClient_effect h

/-- The patches of an operation are well formed, and no two of them disagree on a variable. -/
structure Mutation.Sound (m : Mutation) (config : CliConfig) : Prop where
  keys : ∀ patch ∈ m.patches config, IsEnvName patch.key
  values : ∀ patch ∈ m.patches config, ∀ v ∈ patch.value, SingleLine v
  coherent : Coherent (m.patches config)

/-- Removals are all alike. -/
theorem sound_of_removals {m : Mutation} {config : CliConfig} (hremove : ∀ patch ∈ m.patches config, patch.value = none)
    (hkeys : ∀ patch ∈ m.patches config, IsEnvName patch.key) : m.Sound config where
  keys := hkeys
  values := by
    intro patch hpatch v hv
    rw [hremove patch hpatch] at hv
    cases hv
  coherent := by
    intro p hp q hq _
    rw [hremove p hp, hremove q hq]

/-- With derived references the patches are those of the key and of the base url. -/
theorem addProvider_patches {toUpper : Char → List Char} {input : AddProviderInput}
    (hderived : (Mutation.addProvider input).Derived toUpper) :
    ∀ patch ∈ input.patches, patch = .set (deriveApiKeyRef toUpper input.id) input.apiKey.toList ∨
      patch = .set (deriveBaseUrlRef toUpper input.id) (input.baseUrl.getD "").toList := by
  obtain ⟨hapi, hbase⟩ := hderived
  intro patch hpatch
  obtain heq | hpatch := List.mem_cons.mp hpatch
  · exact .inl (by rw [heq, hapi])
  · obtain ⟨ref, href, rfl⟩ := List.mem_map.mp hpatch
    obtain ⟨href, _⟩ := JsString.truthy_eq_some (Option.mem_toList.mp href)
    rw [hbase] at href
    split at href
    · exact .inr (by rw [Option.some.inj href])
    · exact absurd href (by simp)

theorem addProvider_sound {toUpper : Char → List Char} {input : AddProviderInput} {config : CliConfig}
    (hderived : (Mutation.addProvider input).Derived toUpper) (hplain : (Mutation.addProvider input).Plain config) :
    (Mutation.addProvider input).Sound config := by
  obtain ⟨hkey, hurl⟩ := hplain
  have hcases := addProvider_patches hderived
  refine ⟨?_, ?_, ?_⟩
  · intro patch hpatch
    obtain heq | heq := hcases patch hpatch
    · rw [heq]
      exact deriveApiKeyRef_isEnvName
    · rw [heq]
      exact deriveBaseUrlRef_isEnvName
  · intro patch hpatch v hv
    obtain heq | heq := hcases patch hpatch
    · rw [heq] at hv
      rw [← Option.some.inj hv]
      exact hkey
    · rw [heq] at hv
      rw [← Option.some.inj hv]
      exact hurl
  · intro p hp q hq hkeys
    obtain hp | hp := hcases p hp
    · obtain hq | hq := hcases q hq
      · rw [hp, hq]
      · rw [hp, hq] at hkeys
        exact absurd hkeys deriveApiKeyRef_ne_deriveBaseUrlRef
    · obtain hq | hq := hcases q hq
      · rw [hp, hq] at hkeys
        exact absurd hkeys.symm deriveApiKeyRef_ne_deriveBaseUrlRef
      · rw [hp, hq]

theorem removeProviderPatches_value {gateway : GatewayConfig} {id : String} {patch : EnvPatch}
    (h : patch ∈ removeProviderPatches gateway id) : patch.value = none := by
  unfold removeProviderPatches at h
  split at h
  · cases h
  · rw [List.mem_singleton.mp h]
    rfl
  · obtain h | h := List.mem_cons.mp h
    · rw [h]
      rfl
    · obtain ⟨_, _, rfl⟩ := List.mem_map.mp h
      rfl

theorem removeClientPatches_value {config : CliConfig} {id : String} {patch : EnvPatch}
    (h : patch ∈ removeClientPatches config id) : patch.value = none := by
  unfold removeClientPatches at h
  split at h
  · cases h
  · rw [List.mem_singleton.mp h]
    rfl
  · rw [List.mem_singleton.mp h]
    rfl

theorem mutation_sound {toUpper : Char → List Char} {m : Mutation} {config : CliConfig} (hderived : m.Derived toUpper)
    (hplain : m.Plain config) : m.Sound config := by
  cases m with
  | addProvider input => exact addProvider_sound hderived hplain
  | addClient input =>
    have hcases : ∀ patch ∈ input.patches, patch = .set input.gatewayKeyRef input.gatewayKey.toList :=
      fun patch hpatch => List.mem_singleton.mp hpatch
    refine ⟨?_, ?_, ?_⟩
    · intro patch hpatch
      rw [hcases patch hpatch]
      exact hplain.1
    · intro patch hpatch v hv
      rw [hcases patch hpatch] at hv
      cases hv
      exact hplain.2
    · intro p hp q hq _
      rw [hcases p hp, hcases q hq]
  | removeProvider id => exact sound_of_removals (fun _ hpatch => removeProviderPatches_value hpatch) hplain
  | removeClient id => exact sound_of_removals (fun _ hpatch => removeClientPatches_value hpatch) hplain

/-- After a successful operation every variable another entry references has the value it had
exactly when no write of the operation gives one of them another value, and none of their
values ends in a carriage return. -/
theorem secrets_kept_iff (toUpper : Char → List Char) (secrets : GatewayConfig → EnvText → Option String)
    (modelRow : Option ProviderType → String → String → GatewayModelConfig) (m : Mutation) (state state' : CliState)
    (hderived : m.Derived toUpper) (hplain : m.Plain state.config)
    (happly : m.apply secrets modelRow state = .ok state') :
    (∀ ref ∈ state'.config.otherRefs m.entry, IsEnvName ref → getVar state'.env ref = getVar state.env ref) ↔
      ∀ ref ∈ state.config.otherRefs m.entry, IsEnvName ref → Undisturbed (m.patches state.config) state.env ref := by
  have heffect := apply_effect happly
  have hsound := mutation_sound hderived hplain
  rw [heffect.otherRefs, heffect.env]
  apply forall₂_congr
  intro ref _
  apply imp_congr_right
  intro href
  exact getVar_applyAll_eq_iff heffect.patched hsound.coherent hsound.keys hsound.values href state.env

end Frame

/-! ## Two clients and one name -/

/-- A client whose name is its own leaves the keys of the others alone. -/
theorem newClient_keeps_keys :
    ∃ state', (Mutation.addClient (newClient "ide" "gw_ide")).apply noSecretsMissing plainModelRow oneClient = .ok state' ∧
      ∀ ref ∈ state'.config.otherRefs (.client "ide"), IsEnvName ref → getVar state'.env ref = getVar oneClient.env ref := by
  refine ⟨_, rfl, ?_⟩
  refine (secrets_kept_iff asciiUpper noSecretsMissing plainModelRow (.addClient (newClient "ide" "gw_ide")) oneClient _
    rfl ⟨by decide, by decide⟩ rfl).mpr ?_
  decide +kernel

/-- `web_app` and `web-app` have one name: adding the one overwrites the key of the other. -/
theorem newClient_overwrites_key :
    oneClient.config.accepted = true ∧
    (Mutation.addClient (newClient "web_app" "gw_new")).Derived asciiUpper ∧
    ∃ state', (Mutation.addClient (newClient "web_app" "gw_new")).apply noSecretsMissing plainModelRow oneClient =
        .ok state' ∧
      "GATEWAY_KEY_WEB_APP" ∈ state'.config.otherRefs (.client "web_app") ∧
      getVar oneClient.env "GATEWAY_KEY_WEB_APP" = some "gw_old".toList ∧
      getVar state'.env "GATEWAY_KEY_WEB_APP" = some "gw_new".toList := by
  refine ⟨by decide +kernel, rfl, _, rfl, ?_, ?_, ?_⟩
  · decide
  · decide
  · decide

end AiGateway.Cli
