import AiGateway.Config.GatewayConfig
import AiGateway.Config.FallbackChain
import AiGateway.Lib.Fallible
import AiGateway.Cli.EnvPatch
import AiGateway.Cli.WizardState

/- What the commands that change `gateway.config.yaml` and `.env` share: the configuration and the
   inputs of `ProviderManagerService` and `ClientManagerService`, the variable names derived from
   the ids, the row and the patches an input makes, and the two calls they end in, `applyAddModel`
   and `persistConfig`. What the effective check says is taken as given. -/
namespace AiGateway.Cli

open Wizard (CliRateLimit)

/-! ## Names -/

section Names
variable (toUpper : Char → List Char)   -- `toUpperCase` of one character

def upperCase (s : List Char) : List Char := s.flatMap toUpper

/-- One match of `/[^A-Z0-9]/g` for each UTF-16 unit. -/
def slugChar (c : Char) : List Char :=
  if ('A' ≤ c ∧ c ≤ 'Z') ∨ ('0' ≤ c ∧ c ≤ '9') then [c] else (JsString.charUnits c).map fun _ => '_'

def slug (instanceId : String) : List Char :=
  (upperCase toUpper (JsString.trim instanceId).toList).flatMap slugChar

def deriveApiKeyRef (instanceId : String) : String := String.ofList (slug toUpper instanceId ++ "_API_KEY".toList)

def deriveBaseUrlRef (instanceId : String) : String := String.ofList (slug toUpper instanceId ++ "_BASE_URL".toList)

def deriveGatewayKeyRef (clientId : String) : String :=
  String.ofList ("GATEWAY_KEY_".toList ++
    (upperCase toUpper (JsString.trim clientId).toList).map fun c => if c = '-' then '_' else c)

end Names

/-! ## The configuration and the inputs -/

/-- `GatewayConfig` as the CLI loads it. -/
structure CliConfig where
  masterKeyRef : String
  gateway : GatewayConfig
  clients : JsMap String GatewayClientConfig

/-- `GatewayConfigSchema`. -/
def CliConfig.accepted (config : CliConfig) : Bool :=
  config.masterKeyRef ≠ "" && config.gateway.accepted && clientsAccepted config.clients.entries

structure CliState where
  config : CliConfig
  env : EnvText

inductive CliError where
  | instanceExists (id : String)
  | modelRequired (id : String)
  | unknownInstance (id : String)
  | aliasExists (modelAlias : String)
  | instanceNotFound (id : String)
  | clientExists (id : String)
  | clientNotFound (id : String)
  | schema
  | effective (message : String)
  deriving DecidableEq, Repr

structure AddProviderInput where
  id : String
  type : ProviderType
  enabled : Bool
  apiKeyRef : String
  apiKey : String
  baseUrlRef : Option String
  baseUrl : Option String
  models : List (String × String)   -- alias and model id

structure AddClientInput where
  id : String
  name : String
  type : GatewayClientType
  rateLimit : Option (CliRateLimit ℕ)
  gatewayKey : String
  gatewayKeyRef : String

/-- `buildClientRateLimitConfig`, with `DEFAULT_CLIENT_MAX_CONCURRENT_STREAMS`. -/
def buildClientRateLimitConfig (rateLimit : CliRateLimit ℕ) : ClientRateLimit where
  rps := rateLimit.rps
  burst := rateLimit.burst
  maxConcurrentStreams := ((rateLimit.maxConcurrentStreams.filter fun n => 0 < n).getD 3)

/-- `row.apiKeyRef` or `row.gatewayKeyRef` in a template string, for a row that is a member every
object inherits: it has no such field. -/
def undefinedText : String := "undefined"

/-! ## What an input makes -/

def hasModelsForInstance (gateway : GatewayConfig) (instanceId : String) : Bool :=
  gateway.models.values.any fun model => model.providerInstance = instanceId

/-- Whether `collectAddProviderPendingSecrets` finds one. -/
def hasPendingSecrets (input : AddProviderInput) : Bool :=
  (!isOpenAiProviderType input.type && JsString.trim input.apiKey = "") ||
    ((JsString.truthy input.baseUrlRef).isSome && input.baseUrl.all fun url => JsString.trim url = "")

def AddProviderInput.row (input : AddProviderInput) : ProviderRow :=
  ⟨input.type, input.apiKeyRef, input.enabled, input.baseUrlRef, false⟩

/-- The `setVar` calls of `applyAddProvider`. -/
def AddProviderInput.patches (input : AddProviderInput) : List EnvPatch :=
  .set input.apiKeyRef input.apiKey.toList ::
    (JsString.truthy input.baseUrlRef).toList.map fun ref => .set ref (input.baseUrl.getD "").toList

/-- The `removeVar` calls of its `catch`. -/
def AddProviderInput.cleanup (input : AddProviderInput) : List EnvPatch :=
  .remove input.apiKeyRef :: (JsString.truthy input.baseUrlRef).toList.map .remove

def AddClientInput.row (input : AddClientInput) : GatewayClientConfig :=
  ⟨input.name, input.type, input.gatewayKeyRef, input.rateLimit.map buildClientRateLimitConfig⟩

/-- The `setVar` call of `applyAddClient`. -/
def AddClientInput.patches (input : AddClientInput) : List EnvPatch := [.set input.gatewayKeyRef input.gatewayKey.toList]

/-! ## The calls they end in -/

section Operations
variable (secrets : GatewayConfig → EnvText → Option String)        -- what the effective check throws for a missing secret
variable (modelRow : Option ProviderType → String → String → GatewayModelConfig)   -- the row `applyAddModel` builds

/-- `persistConfig`; the file it writes is the configuration it returns. -/
def persistConfig (state : CliState) (skipEffectiveCheck allowMissingProviderSecrets : Bool) : Except CliError CliState :=
  if !state.config.accepted then .error .schema
  else if skipEffectiveCheck then .ok state
  else
    let missing := if allowMissingProviderSecrets then none else secrets state.config.gateway state.env
    match buildEffectiveGatewayConfig state.config.gateway missing with
    | .error message => .error (.effective message)
    | .ok _ => .ok state

/-- `applyAddModel` with `persist: false`. -/
def applyAddModel (gateway : GatewayConfig) (providerInstance modelAlias modelId : String) :
    Except CliError GatewayConfig :=
  let add (type : Option ProviderType) : Except CliError GatewayConfig :=
    match property gateway.models modelAlias with
    | .missing => .ok { gateway with models := gateway.models.set modelAlias (modelRow type providerInstance modelId) }
    | _ => .error (.aliasExists modelAlias)
  match property gateway.providers providerInstance with
  | .missing => .error (.unknownInstance providerInstance)
  | .own row => add (some row.type)
  | .inherited => add none

end Operations

section Slug
variable {toUpper : Char → List Char} {id : String}

theorem slug_chars {c : Char} (h : c ∈ slug toUpper id) : c ≠ '=' ∧ c ≠ '\n' := by
  obtain ⟨d, _, hd⟩ := List.mem_flatMap.mp h
  unfold slugChar at hd
  split at hd
  · next hrange =>
    obtain rfl := List.mem_singleton.mp hd
    refine ⟨?_, ?_⟩
    · intro heq
      rw [heq] at hrange
      exact absurd hrange (by decide)
    · intro heq
      rw [heq] at hrange
      exact absurd hrange (by decide)
  · obtain ⟨_, _, rfl⟩ := List.mem_map.mp hd
    exact ⟨by decide, by decide⟩

theorem slug_append_isEnvName {suffix : List Char} (heq : '=' ∉ suffix) (hbreak : '\n' ∉ suffix) :
    IsEnvName (String.ofList (slug toUpper id ++ suffix)) := by
  unfold IsEnvName
  rw [String.toList_ofList, List.mem_append, List.mem_append]
  refine ⟨?_, ?_⟩
  · intro h
    obtain h | h := h
    · exact (slug_chars h).1 rfl
    · exact heq h
  · intro h
    obtain h | h := h
    · exact (slug_chars h).2 rfl
    · exact hbreak h

theorem deriveApiKeyRef_isEnvName : IsEnvName (deriveApiKeyRef toUpper id) :=
  slug_append_isEnvName (by decide) (by decide)

theorem deriveBaseUrlRef_isEnvName : IsEnvName (deriveBaseUrlRef toUpper id) :=
  slug_append_isEnvName (by decide) (by decide)

theorem deriveApiKeyRef_ne_deriveBaseUrlRef : deriveApiKeyRef toUpper id ≠ deriveBaseUrlRef toUpper id := by
  intro h
  have hlists := String.ofList_injective h
  exact absurd (List.append_cancel_left hlists) (by decide)

end Slug

section Persisted
variable {secrets : GatewayConfig → EnvText → Option String}
variable {modelRow : Option ProviderType → String → String → GatewayModelConfig}
variable {state persisted : CliState}

theorem persistConfig_ok {skip allow : Bool} (h : persistConfig secrets state skip allow = .ok persisted) :
    persisted = state := by
  unfold persistConfig at h
  split at h
  · cases h
  · split at h
    · cases h
      rfl
    · dsimp only at h
      split at h
      · cases h
      · cases h
        rfl

theorem applyAddModel_ok {gateway gateway' : GatewayConfig} {id modelAlias modelId : String}
    (h : applyAddModel modelRow gateway id modelAlias modelId = .ok gateway') :
    gateway'.providers = gateway.providers := by
  have hadd : ∀ type, (match property gateway.models modelAlias with
      | .missing => Except.ok { gateway with models := gateway.models.set modelAlias (modelRow type id modelId) }
      | _ => .error (CliError.aliasExists modelAlias)) = .ok gateway' → gateway'.providers = gateway.providers := by
    intro type h
    split at h
    · cases h
      rfl
    · cases h
  unfold applyAddModel at h
  dsimp only at h
  split at h
  · cases h
  · exact hadd _ h
  · exact hadd _ h

end Persisted

/-! ## One client and its key -/

def asciiUpper (c : Char) : List Char := [c.toUpper]

/-- One client, with its key. -/
def oneClient : CliState where
  config := ⟨"MASTER_KEY", chainConfig, ⟨[("web-app", ⟨"Web app", .webapp, "GATEWAY_KEY_WEB_APP", none⟩)], by decide⟩⟩
  env := "MASTER_KEY=mk\nGATEWAY_KEY_WEB_APP=gw_old\n".toList

def newClient (id gatewayKey : String) : AddClientInput :=
  ⟨id, "Client", .cli, none, gatewayKey, deriveGatewayKeyRef asciiUpper id⟩

def noSecretsMissing : GatewayConfig → EnvText → Option String := fun _ _ => none

def plainModelRow : Option ProviderType → String → String → GatewayModelConfig :=
  fun _ providerInstance modelId => ⟨providerInstance, modelId, none, ⟨none, none, none⟩, plainPolicy⟩

end AiGateway.Cli
