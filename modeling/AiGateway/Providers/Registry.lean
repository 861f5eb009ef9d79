import AiGateway.Chat.Resilience
import AiGateway.Config.GatewayConfig

/- `ProviderRegistryService`: from an alias of the effective configuration to the provider that
   serves it, with its fallback, capabilities and policy. -/
namespace AiGateway

/-- An entry of `instances`; `stream` tells whether the adapter has the method. -/
structure RegisteredInstance where
  instanceId : String
  type : ProviderType
  stream : Bool
  deriving DecidableEq, Repr

structure ProviderRegistry where
  gateway : GatewayConfig
  instances : JsMap String RegisteredInstance

/-- `ProviderInstancesBootstrap` registers every provider of the effective configuration under
its own type; the adapters of all four factories have `stream`. -/
def ProviderRegistry.bootstrap (gateway : GatewayConfig) : ProviderRegistry where
  gateway := gateway
  instances :=
    { entries := gateway.providers.entries.map fun (id, row) => (id, ⟨id, row.type, true⟩)
      nodup := by
        rw [List.map_map]
        exact gateway.providers.nodup }

structure ResolvedPolicy where
  timeoutMs : ℕ
  maxAttempts : MaxAttempts
  onStatus : List ℕ

structure ResolvedProviderConfig where
  providerName : String
  providerType : ProviderType
  stream : Bool
  modelId : String
  modelAlias : String
  fallbackAlias : Option String
  capabilities : GatewayCapabilities
  policy : ResolvedPolicy
  params : GatewayParams

def modelAliasNotFound (modelAlias : String) : ThrownError :=
  .http 400 (some "MODEL_ALIAS_NOT_FOUND") ("Model alias " ++ modelAlias ++ " not found in config") none

def providerInstanceNotFound (instanceId : String) : ThrownError :=
  .http 400 (some "VALIDATION_FAILED") ("Provider instance " ++ instanceId ++ " not found") none

/-- `UnsupportedProviderException`. -/
def providerNotRegistered (instanceId type : String) : ThrownError :=
  .http 500 (some "PROVIDER_UNSUPPORTED")
    ("Provider instance " ++ instanceId ++ " not registered (type: " ++ type ++ ")") none

def providerTypeMismatch (instanceId : String) (configured registered : ProviderType) : ThrownError :=
  .http 500 none ("Provider instance \"" ++ instanceId ++ "\" type mismatch: config=" ++ configured.text ++
    ", registry=" ++ registered.text) none

namespace ProviderRegistry

variable (reg : ProviderRegistry)

/-- `resolveModelAlias`: an inherited member has no `providerInstance`. -/
def resolveModelAlias (modelAlias : String) : Except ThrownError (Option GatewayModelConfig) :=
  match property reg.gateway.models modelAlias with
  | .own row => .ok (some row)
  | .inherited => .ok none
  | .missing => .error (modelAliasNotFound modelAlias)

/-- `resolveProviderEntry`. -/
def resolveProviderEntry (model : GatewayModelConfig) : Except ThrownError RegisteredInstance :=
  match property reg.gateway.providers model.providerInstance with
  | .missing => .error (providerInstanceNotFound model.providerInstance)
  | .inherited =>
    match reg.instances.get? model.providerInstance with
    | none => .error (providerNotRegistered model.providerInstance "undefined")
    | some entry => .error (.http 500 none ("Provider instance \"" ++ model.providerInstance ++
        "\" type mismatch: config=undefined, registry=" ++ entry.type.text) none)
  | .own row =>
    match reg.instances.get? model.providerInstance with
    | none => .error (providerNotRegistered model.providerInstance row.type.text)
    | some entry =>
      if entry.type ≠ row.type then .error (providerTypeMismatch model.providerInstance row.type entry.type)
      else .ok entry

/-- What `resolveProviderEntry` throws for an alias without `providerInstance`: `undefined` is
read as a name of `providers`, but never registered. -/
def undefinedInstanceError : ThrownError :=
  match property reg.gateway.providers "undefined" with
  | .own row => providerNotRegistered "undefined" row.type.text
  | _ => providerInstanceNotFound "undefined"

/-- A fallback that is no alias of the configuration is dropped. -/
def keptFallback (model : GatewayModelConfig) : Option String :=
  match JsString.truthy model.fallback with
  | none => none
  | some fallback =>
    match property reg.gateway.models fallback with
    | .missing => none
    | _ => some fallback

def resolvedPolicy (policy : GatewayPolicy) : ResolvedPolicy where
  timeoutMs := policy.timeoutMs.getD 30000
  maxAttempts := policy.retry.maxAttempts.getD ⟨3, by decide⟩
  onStatus := policy.retry.onStatus.getD defaultRetryPolicy.onStatus

def resolve (modelAlias : String) : Except ThrownError ResolvedProviderConfig := do
  let found ← reg.resolveModelAlias modelAlias
  match found with
  | none => .error reg.undefinedInstanceError
  | some model => do
    let entry ← reg.resolveProviderEntry model
    return {
      providerName := entry.instanceId
      providerType := entry.type
      stream := entry.stream
      modelId := model.modelId
      modelAlias := modelAlias
      fallbackAlias := reg.keptFallback model
      capabilities := model.capabilities
      policy := resolvedPolicy model.policy
      params := model.policy.params }

end ProviderRegistry

def buildRetryPolicyFromResolved (resolved : ResolvedProviderConfig) : RetryPolicy where
  maxAttempts := resolved.policy.maxAttempts.val
  onStatus := resolved.policy.onStatus
  timeoutMs := some resolved.policy.timeoutMs
  initialDelayMs := defaultRetryPolicy.initialDelayMs
  maxDelayMs := defaultRetryPolicy.maxDelayMs
  maxAttempts_pos := resolved.policy.maxAttempts.property.1

end AiGateway
