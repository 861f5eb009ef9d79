import AiGateway.Cache.CachedReply
import AiGateway.Cli.ConfigInit
import AiGateway.Config.Clients
import AiGateway.Config.GatewayConfig
import AiGateway.Lib.Fallible
import AiGateway.Lib.JsonIndent
import AiGateway.Lib.JsonRecord
import AiGateway.Lib.JsonText

/- The wizard session with the answers it holds, and its file: `saveState` writes it with
   `JSON.stringify(state, null, 2)`, `loadState` reads the text, checks it with
   `WizardStateSchema` and converts every branded field again (`parseWizardState`).

   In the program a branded value is checked where it is made and is a plain string or number
   from then on. Here the brands are types (`BaseUrl`, `AtLeastOne`, `Port`), the records are
   generic in them, and the schema reads the same records with plain fields. The conversions
   take an optional field that is falsy for one that is missing. For a branded field that
   makes no difference, since no brand has a falsy value, and what is left of it is
   `WizardSession.reloaded`: the master key and a provider's `baseUrlRef` are lost when they
   are empty, and nothing else is (`loadState_saveState`). -/
namespace AiGateway.Cli.Wizard

open Fallible (collect)

/-! ## Branded values -/

/-- `asBaseUrl` was passed. -/
abbrev BaseUrl := {s : String // JsString.startsWith s "http://" || JsString.startsWith s "https://"}

/-- A rate limit or a number of streams: an integer from one on. -/
abbrev AtLeastOne := {n : Json.Number // n.value.den = 1 ∧ 1 ≤ n.value}

abbrev Port := {n : Json.Number // n.value.den = 1 ∧ 1 ≤ n.value ∧ n.value ≤ 65535}

/-- `Math.floor` of a number that is not negative; an integer keeps its text. -/
def floor (n : Json.Number) : Json.Number :=
  if n.value.den = 1 then n else Json.natNumber n.value.floor.toNat

theorem floor_den (n : Json.Number) : (floor n).value.den = 1 := by
  unfold floor
  split
  · assumption
  · rw [Json.natNumber_value]
    exact Rat.den_natCast _

theorem floor_value {n : Json.Number} (h : 1 ≤ n.value) : (floor n).value = (n.value.floor : ℚ) := by
  unfold floor
  split
  · next hden =>
    rw [Rat.floor_def, hden, Nat.cast_one, Int.ediv_one]
    nth_rewrite 1 [← Rat.num_div_den n.value]
    rw [hden, Nat.cast_one, div_one]
  · have hfloor : 1 ≤ n.value.floor := Rat.le_floor_iff.mpr (by simpa using h)
    have hint : ((n.value.floor.toNat : ℕ) : ℤ) = n.value.floor := Int.toNat_of_nonneg (by omega)
    rw [Json.natNumber_value]
    exact_mod_cast hint

theorem one_le_floor {n : Json.Number} (h : 1 ≤ n.value) : 1 ≤ (floor n).value := by
  have hfloor : 1 ≤ n.value.floor := Rat.le_floor_iff.mpr (by simpa using h)
  rw [floor_value h]
  exact_mod_cast hfloor

theorem floor_le {n : Json.Number} (h : 1 ≤ n.value) : (floor n).value ≤ n.value := by
  rw [floor_value h]
  exact Rat.floor_le _

theorem floor_lt_iff {n : Json.Number} (h : 1 ≤ n.value) (bound : ℕ) :
    (floor n).value < bound ↔ n.value < bound := by
  have hfloor : n.value.floor < (bound : ℤ) ↔ n.value < ((bound : ℤ) : ℚ) := Rat.floor_lt_iff
  rw [floor_value h]
  exact_mod_cast hfloor

theorem floor_of_den {n : Json.Number} (h : n.value.den = 1) : floor n = n := if_pos h

def asBaseUrl (value : String) : Except String BaseUrl :=
  if h : JsString.startsWith value "http://" || JsString.startsWith value "https://" then .ok ⟨value, h⟩
  else .error "BaseUrl must start with http:// or https://"

/-- `asRateLimitRps`, `asRateLimitBurst` and `asMaxConcurrentStreams`, which differ in the name
they give. -/
def asAtLeastOne (name : String) (value : Json.Number) : Except String AtLeastOne :=
  if h : value.value < 1 then .error (name ++ " must be >=1")
  else .ok ⟨floor value, floor_den value, one_le_floor (not_lt.mp h)⟩

def asRateLimitRps : Json.Number → Except String AtLeastOne := asAtLeastOne "RateLimitRps"

def asRateLimitBurst : Json.Number → Except String AtLeastOne := asAtLeastOne "RateLimitBurst"

def asMaxConcurrentStreams : Json.Number → Except String AtLeastOne := asAtLeastOne "MaxConcurrentStreams"

def asPort (value : Json.Number) : Except String Port :=
  if h : value.value < 1 ∨ 65535 < value.value then .error "Port must be 1-65535"
  else
    have hone : 1 ≤ value.value := not_lt.mp (mt .inl h)
    .ok ⟨floor value, floor_den value, one_le_floor hone, (floor_le hone).trans (not_lt.mp (mt .inr h))⟩

/-! A branded value passes its own check again, and is left as it is. -/

theorem asBaseUrl_val (u : BaseUrl) : asBaseUrl u.val = .ok u := dif_pos u.property

theorem asAtLeastOne_val (name : String) (n : AtLeastOne) : asAtLeastOne name n.val = .ok n := by
  obtain ⟨n, hden, hone⟩ := n
  simp [asAtLeastOne, not_lt.mpr hone, floor_of_den hden]

theorem asPort_val (p : Port) : asPort p.val = .ok p := by
  obtain ⟨n, hden, hone, hle⟩ := p
  simp [asPort, not_lt.mpr hone, not_lt.mpr hle, floor_of_den hden]

theorem truthy_of_one_le {n : Json.Number} (h : 1 ≤ n.value) : n.value ≠ 0 := by
  intro hzero
  rw [hzero] at h
  exact absurd h (by decide)

/-! ## The records -/

/-- `z.enum(...)`. -/
def asEnum {α : Type} (text : α → String) (all : List α) (v : Json.Value) : Option α :=
  (asStr v).bind fun s => all.find? fun a => text a = s

def GATEWAY_CLIENT_TYPES : List GatewayClientType := [.webapp, .ide, .cli, .service, .backend, .automation]

def clientTypeText : GatewayClientType → String
  | .webapp => "webapp"
  | .ide => "ide"
  | .cli => "cli"
  | .service => "service"
  | .backend => "backend"
  | .automation => "automation"

def PROVIDER_TYPES : List ProviderType := [.anthropic, .google, .openai, .openaiCompatible]

def WIZARD_STEPS : List WizardStep :=
  [.masterKey, .providers, .models, .clients, .serverConfig, .writeFiles, .complete]

def WIZARD_INIT_STEPS : List WizardStep := [.masterKey, .providers, .models, .clients, .serverConfig]

def stepText : WizardStep → String
  | .masterKey => "master-key"
  | .providers => "providers"
  | .models => "models"
  | .clients => "clients"
  | .serverConfig => "server-config"
  | .writeFiles => "write-files"
  | .complete => "complete"

inductive ApiSurface where
  | chatCompletions
  deriving DecidableEq, Repr

def ApiSurface.text : ApiSurface → String
  | .chatCompletions => "chat-completions"

inductive CacheBackend where
  | redis | noop
  deriving DecidableEq, Repr

def CacheBackend.text : CacheBackend → String
  | .redis => "redis"
  | .noop => "noop"

inductive MetricsBackend where
  | sentry | noop
  deriving DecidableEq, Repr

def MetricsBackend.text : MetricsBackend → String
  | .sentry => "sentry"
  | .noop => "noop"

structure CliRateLimit (Count : Type) where
  rps : Count
  burst : Count
  maxConcurrentStreams : Option Count
  deriving DecidableEq

structure CliAiModel where
  modelAlias : String        -- `alias`
  providerInstance : String
  modelId : String
  deriving DecidableEq

structure CliAiProvider (Url : Type) where
  id : String
  type : ProviderType
  apiKeyRef : String
  apiKey : String
  enabled : Option Bool
  baseUrlRef : Option String
  baseUrl : Option Url
  apiSurface : Option ApiSurface
  deriving DecidableEq

structure GatewayClient (Count : Type) where
  id : String
  name : String
  type : GatewayClientType
  gatewayKeyRef : String
  gatewayKey : String
  rateLimit : Option (CliRateLimit Count)
  deriving DecidableEq

structure ServerConfigPromptResult (PortNumber : Type) where
  port : PortNumber
  nodeEnv : String
  swaggerEnabled : Option Bool
  cacheEnabled : Option Bool
  cacheBackend : Option CacheBackend
  redisHost : Option String
  redisPort : Option PortNumber
  redisPassword : Option String
  rateLimitSmartEnabled : Option Bool
  semanticCacheEnabled : Option Bool
  metricsBackend : Option MetricsBackend
  sentryDsn : Option String
  deriving DecidableEq

/-- The answers given so far: `state.data`. -/
structure WizardData (Url Count PortNumber : Type) where
  masterKey : Option String := none
  providers : Option (List (CliAiProvider Url)) := none
  models : Option (List CliAiModel) := none
  clients : Option (List (GatewayClient Count)) := none
  serverConfig : Option (ServerConfigPromptResult PortNumber) := none
  deriving DecidableEq

/-- `WizardState` of the source, with its identification and its answers. -/
structure WizardSession (Url Count PortNumber : Type) extends WizardState where
  sessionId : String
  startedAt : String
  data : WizardData Url Count PortNumber := {}
  deriving DecidableEq

/-- A session in memory. -/
abbrev Session := WizardSession BaseUrl AtLeastOne Port

/-- `z.infer<typeof WizardStateSchema>`. -/
abbrev RawSession := WizardSession String Json.Number Json.Number

/-! ## `JSON.stringify(state, null, 2)` -/

/-- An object literal with these members. -/
def object (fields : List (String × Option Json.Value)) (distinct : (fields.map Prod.fst).Nodup) : Json.Value :=
  Json.Record.toValue ⟨fields, distinct⟩

def listToJson {α : Type} (write : α → Json.Value) (items : List α) : Json.Value := .arr (items.map write)

def CliRateLimit.toJson (r : CliRateLimit Json.Number) : Json.Value :=
  object
    [("rps", some (.num r.rps)), ("burst", some (.num r.burst)),
     ("maxConcurrentStreams", r.maxConcurrentStreams.map .num)] (by simp)

def CliAiModel.toJson (m : CliAiModel) : Json.Value :=
  object
    [("alias", some (.str m.modelAlias)), ("providerInstance", some (.str m.providerInstance)),
     ("modelId", some (.str m.modelId))] (by simp)

def CliAiProvider.toJson (p : CliAiProvider String) : Json.Value :=
  object
    [("id", some (.str p.id)), ("type", some (.str p.type.text)), ("apiKeyRef", some (.str p.apiKeyRef)),
     ("apiKey", some (.str p.apiKey)), ("enabled", p.enabled.map .bool), ("baseUrlRef", p.baseUrlRef.map .str),
     ("baseUrl", p.baseUrl.map .str), ("apiSurface", p.apiSurface.map fun a => .str a.text)] (by simp)

def GatewayClient.toJson (c : GatewayClient Json.Number) : Json.Value :=
  object
    [("id", some (.str c.id)), ("name", some (.str c.name)), ("type", some (.str (clientTypeText c.type))),
     ("gatewayKeyRef", some (.str c.gatewayKeyRef)), ("gatewayKey", some (.str c.gatewayKey)),
     ("rateLimit", c.rateLimit.map CliRateLimit.toJson)] (by simp)

def ServerConfigPromptResult.toJson (c : ServerConfigPromptResult Json.Number) : Json.Value :=
  object
    [("port", some (.num c.port)), ("nodeEnv", some (.str c.nodeEnv)),
     ("swaggerEnabled", c.swaggerEnabled.map .bool), ("cacheEnabled", c.cacheEnabled.map .bool),
     ("cacheBackend", c.cacheBackend.map fun b => .str b.text), ("redisHost", c.redisHost.map .str),
     ("redisPort", c.redisPort.map .num), ("redisPassword", c.redisPassword.map .str),
     ("rateLimitSmartEnabled", c.rateLimitSmartEnabled.map .bool),
     ("semanticCacheEnabled", c.semanticCacheEnabled.map .bool),
     ("metricsBackend", c.metricsBackend.map fun b => .str b.text), ("sentryDsn", c.sentryDsn.map .str)] (by simp)

def WizardData.toJson (d : WizardData String Json.Number Json.Number) : Json.Value :=
  object
    [("masterKey", d.masterKey.map .str), ("providers", d.providers.map (listToJson CliAiProvider.toJson)),
     ("models", d.models.map (listToJson CliAiModel.toJson)),
     ("clients", d.clients.map (listToJson GatewayClient.toJson)),
     ("serverConfig", d.serverConfig.map ServerConfigPromptResult.toJson)] (by simp)

def filesToJson (files : WizardFiles) : Json.Value :=
  object
    [("created", some (listToJson .str files.created)), ("backedUp", some (listToJson .str files.backedUp))] (by simp)

def WizardSession.toJson (s : RawSession) : Json.Value :=
  object
    [("sessionId", some (.str s.sessionId)), ("startedAt", some (.str s.startedAt)),
     ("currentStep", some (.str (stepText s.currentStep))),
     ("completedSteps", some (listToJson (fun step => .str (stepText step)) s.completedSteps)),
     ("data", some s.data.toJson), ("files", some (filesToJson s.files))] (by simp)

/-! ## `WizardStateSchema` -/

def asBool : Json.Value → Option Bool
  | .bool b => some b
  | _ => none

/-- `z.array(...)`. -/
def asArray {α : Type} (read : Json.Value → Option α) : Json.Value → Option (List α)
  | .arr items => items.mapM read
  | _ => none

def CliRateLimitSchema (v : Json.Value) : Option (CliRateLimit Json.Number) := do
  let rps ← required v "rps" Json.asNumber
  let burst ← required v "burst" Json.asNumber
  let maxConcurrentStreams ← optional v "maxConcurrentStreams" Json.asNumber
  some { rps, burst, maxConcurrentStreams }

def CliAiProviderSchema (v : Json.Value) : Option (CliAiProvider String) := do
  let id ← required v "id" asStr
  let type ← required v "type" (asEnum ProviderType.text PROVIDER_TYPES)
  let apiKeyRef ← required v "apiKeyRef" asStr
  let apiKey ← required v "apiKey" asStr
  let enabled ← optional v "enabled" asBool
  let baseUrlRef ← optional v "baseUrlRef" asStr
  let baseUrl ← optional v "baseUrl" asStr
  let apiSurface ← optional v "apiSurface" (asEnum ApiSurface.text [.chatCompletions])
  some { id, type, apiKeyRef, apiKey, enabled, baseUrlRef, baseUrl, apiSurface }

def CliAiModelSchema (v : Json.Value) : Option CliAiModel := do
  let modelAlias ← required v "alias" asStr
  let providerInstance ← required v "providerInstance" asStr
  let modelId ← required v "modelId" asStr
  some { modelAlias, providerInstance, modelId }

def GatewayClientSchema (v : Json.Value) : Option (GatewayClient Json.Number) := do
  let id ← required v "id" asStr
  let name ← required v "name" asStr
  let type ← required v "type" (asEnum clientTypeText GATEWAY_CLIENT_TYPES)
  let gatewayKeyRef ← required v "gatewayKeyRef" asStr
  let gatewayKey ← required v "gatewayKey" asStr
  let rateLimit ← optional v "rateLimit" CliRateLimitSchema
  some { id, name, type, gatewayKeyRef, gatewayKey, rateLimit }

/-- `serverConfig` of the schema. -/
def serverConfigSchema (v : Json.Value) : Option (ServerConfigPromptResult Json.Number) := do
  let port ← required v "port" Json.asNumber
  let nodeEnv ← required v "nodeEnv" asStr
  let swaggerEnabled ← optional v "swaggerEnabled" asBool
  let cacheEnabled ← optional v "cacheEnabled" asBool
  let cacheBackend ← optional v "cacheBackend" (asEnum CacheBackend.text [.redis, .noop])
  let redisHost ← optional v "redisHost" asStr
  let redisPort ← optional v "redisPort" Json.asNumber
  let redisPassword ← optional v "redisPassword" asStr
  let rateLimitSmartEnabled ← optional v "rateLimitSmartEnabled" asBool
  let semanticCacheEnabled ← optional v "semanticCacheEnabled" asBool
  let metricsBackend ← optional v "metricsBackend" (asEnum MetricsBackend.text [.sentry, .noop])
  let sentryDsn ← optional v "sentryDsn" asStr
  some { port, nodeEnv, swaggerEnabled, cacheEnabled, cacheBackend, redisHost, redisPort, redisPassword,
         rateLimitSmartEnabled, semanticCacheEnabled, metricsBackend, sentryDsn }

/-- `data` of the schema: every property of it is optional, so that it is an object is a check
of its own. -/
def dataSchema (v : Json.Value) : Option (WizardData String Json.Number Json.Number) :=
  match v with
  | .obj _ => do
    let masterKey ← optional v "masterKey" asStr
    let providers ← optional v "providers" (asArray CliAiProviderSchema)
    let models ← optional v "models" (asArray CliAiModelSchema)
    let clients ← optional v "clients" (asArray GatewayClientSchema)
    let serverConfig ← optional v "serverConfig" serverConfigSchema
    some { masterKey, providers, models, clients, serverConfig }
  | _ => none

def filesSchema (v : Json.Value) : Option WizardFiles := do
  let created ← required v "created" (asArray asStr)
  let backedUp ← required v "backedUp" (asArray asStr)
  some { created, backedUp }

def WizardStateSchema (v : Json.Value) : Option RawSession := do
  let sessionId ← required v "sessionId" asStr
  let startedAt ← required v "startedAt" asStr
  let currentStep ← required v "currentStep" (asEnum stepText WIZARD_STEPS)
  let completedSteps ← required v "completedSteps" (asArray (asEnum stepText WIZARD_STEPS))
  let data ← required v "data" dataSchema
  let files ← required v "files" filesSchema
  some { sessionId, startedAt, currentStep, completedSteps, data, files }

/-! ## What is written is read -/

theorem get?_object {fields : List (String × Option Json.Value)} (distinct : (fields.map Prod.fst).Nodup)
    (key : String) : (object fields distinct).get? key = (fields.lookup key).join :=
  Json.Record.get?_toValue _ key

/-- `optional` on the property itself. -/
def readOptional {α : Type} (read : Json.Value → Option α) (o : Option Json.Value) : Option (Option α) :=
  o.elim (some none) fun v => (read v).map some

theorem optional_eq {α : Type} (v : Json.Value) (key : String) (read : Json.Value → Option α) :
    optional v key read = readOptional read (v.get? key) := by
  unfold optional
  cases v.get? key <;> rfl

theorem readOptional_map {α : Type} {read : Json.Value → Option α} {write : α → Json.Value}
    (hread : ∀ a, read (write a) = some a) (o : Option α) : readOptional read (o.map write) = some o := by
  cases o with
  | none => rfl
  | some a => simp [readOptional, hread]

theorem asArray_listToJson {α : Type} {read : Json.Value → Option α} {write : α → Json.Value}
    (hread : ∀ a, read (write a) = some a) (items : List α) : asArray read (listToJson write items) = some items := by
  show (items.map write).mapM read = some items
  induction items with
  | nil => rfl
  | cons a items ih =>
    rw [List.map_cons, List.mapM_cons, hread, ih]
    rfl

theorem asEnum_text {α : Type} {text : α → String} {all : List α}
    (hall : ∀ a, all.find? (fun b => text b = text a) = some a) (a : α) :
    asEnum text all (.str (text a)) = some a := hall a

theorem asStr_str (s : String) : asStr (.str s) = some s := rfl

theorem asNumber_num (n : Json.Number) : Json.asNumber (.num n) = some n := rfl

theorem asBool_bool (b : Bool) : asBool (.bool b) = some b := rfl

theorem providerType_read (type : ProviderType) :
    asEnum ProviderType.text PROVIDER_TYPES (.str type.text) = some type :=
  asEnum_text (fun type => by cases type <;> rfl) type

theorem clientType_read (type : GatewayClientType) :
    asEnum clientTypeText GATEWAY_CLIENT_TYPES (.str (clientTypeText type)) = some type :=
  asEnum_text (fun type => by cases type <;> rfl) type

theorem step_read (step : WizardStep) : asEnum stepText WIZARD_STEPS (.str (stepText step)) = some step :=
  asEnum_text (fun step => by cases step <;> rfl) step

theorem apiSurface_read (a : ApiSurface) : asEnum ApiSurface.text [.chatCompletions] (.str a.text) = some a :=
  asEnum_text (fun a => by cases a; rfl) a

theorem cacheBackend_read (b : CacheBackend) : asEnum CacheBackend.text [.redis, .noop] (.str b.text) = some b :=
  asEnum_text (fun b => by cases b <;> rfl) b

theorem metricsBackend_read (b : MetricsBackend) :
    asEnum MetricsBackend.text [.sentry, .noop] (.str b.text) = some b :=
  asEnum_text (fun b => by cases b <;> rfl) b

theorem CliRateLimitSchema_toJson (r : CliRateLimit Json.Number) : CliRateLimitSchema r.toJson = some r := by
  simp [CliRateLimitSchema, CliRateLimit.toJson, required, optional_eq, get?_object, List.lookup_cons, asNumber_num,
    readOptional_map asNumber_num]

theorem CliAiModelSchema_toJson (m : CliAiModel) : CliAiModelSchema m.toJson = some m := by
  simp [CliAiModelSchema, CliAiModel.toJson, required, get?_object, List.lookup_cons, asStr_str]

theorem CliAiProviderSchema_toJson (p : CliAiProvider String) : CliAiProviderSchema p.toJson = some p := by
  simp [CliAiProviderSchema, CliAiProvider.toJson, required, optional_eq, get?_object, List.lookup_cons, asStr_str,
    providerType_read, readOptional_map asStr_str, readOptional_map asBool_bool, readOptional_map apiSurface_read]

theorem GatewayClientSchema_toJson (c : GatewayClient Json.Number) : GatewayClientSchema c.toJson = some c := by
  simp [GatewayClientSchema, GatewayClient.toJson, required, optional_eq, get?_object, List.lookup_cons, asStr_str,
    clientType_read, readOptional_map CliRateLimitSchema_toJson]

theorem serverConfigSchema_toJson (c : ServerConfigPromptResult Json.Number) :
    serverConfigSchema c.toJson = some c := by
  simp [serverConfigSchema, ServerConfigPromptResult.toJson, required, optional_eq, get?_object, List.lookup_cons,
    asStr_str, asNumber_num, readOptional_map asStr_str, readOptional_map asNumber_num,
    readOptional_map asBool_bool, readOptional_map cacheBackend_read, readOptional_map metricsBackend_read]

theorem dataSchema_toJson (d : WizardData String Json.Number Json.Number) : dataSchema d.toJson = some d := by
  have hmasterKey : optional d.toJson "masterKey" asStr = some d.masterKey := by
    simp [WizardData.toJson, optional_eq, get?_object, readOptional_map asStr_str]
  have hproviders : optional d.toJson "providers" (asArray CliAiProviderSchema) = some d.providers := by
    simp [WizardData.toJson, optional_eq, get?_object, List.lookup_cons,
      readOptional_map (asArray_listToJson CliAiProviderSchema_toJson)]
  have hmodels : optional d.toJson "models" (asArray CliAiModelSchema) = some d.models := by
    simp [WizardData.toJson, optional_eq, get?_object, List.lookup_cons,
      readOptional_map (asArray_listToJson CliAiModelSchema_toJson)]
  have hclients : optional d.toJson "clients" (asArray GatewayClientSchema) = some d.clients := by
    simp [WizardData.toJson, optional_eq, get?_object, List.lookup_cons,
      readOptional_map (asArray_listToJson GatewayClientSchema_toJson)]
  have hserver : optional d.toJson "serverConfig" serverConfigSchema = some d.serverConfig := by
    simp [WizardData.toJson, optional_eq, get?_object, List.lookup_cons, readOptional_map serverConfigSchema_toJson]
  obtain ⟨members, hobject⟩ : ∃ members, d.toJson = .obj members := ⟨_, rfl⟩
  rw [hobject] at hmasterKey hproviders hmodels hclients hserver ⊢
  simp [dataSchema, hmasterKey, hproviders, hmodels, hclients, hserver]

theorem filesSchema_toJson (files : WizardFiles) : filesSchema (filesToJson files) = some files := by
  simp [filesSchema, filesToJson, required, get?_object, List.lookup_cons, asArray_listToJson asStr_str]

theorem WizardStateSchema_toJson (s : RawSession) : WizardStateSchema s.toJson = some s := by
  simp [WizardStateSchema, WizardSession.toJson, required, get?_object, List.lookup_cons, asStr_str, step_read,
    asArray_listToJson step_read, dataSchema_toJson, filesSchema_toJson]

/-! ## `parseWizardState` -/

/-- `text ? f(text) : undefined` of an optional string. -/
def nonEmpty (o : Option String) : Option String := o.filter (· ≠ "")

/-- `n ? f(n) : undefined` of an optional number. -/
def nonZero (o : Option Json.Number) : Option Json.Number := o.filter fun n => n.value ≠ 0

def convertRateLimit (rateLimit : CliRateLimit Json.Number) : Except String (CliRateLimit AtLeastOne) := do
  let rps ← asRateLimitRps rateLimit.rps
  let burst ← asRateLimitBurst rateLimit.burst
  let maxConcurrentStreams ← (nonZero rateLimit.maxConcurrentStreams).mapM asMaxConcurrentStreams
  .ok { rps, burst, maxConcurrentStreams }

def convertProvider (provider : CliAiProvider String) : Except String (CliAiProvider BaseUrl) := do
  let baseUrl ← (nonEmpty provider.baseUrl).mapM asBaseUrl
  .ok { provider with baseUrlRef := nonEmpty provider.baseUrlRef, baseUrl := baseUrl }

/-- `asModelAlias`, `asProviderInstanceId` and `asModelId` check nothing. -/
def convertModel (model : CliAiModel) : CliAiModel := model

def convertClient (client : GatewayClient Json.Number) : Except String (GatewayClient AtLeastOne) := do
  let rateLimit ← client.rateLimit.mapM convertRateLimit
  .ok { client with rateLimit := rateLimit }

def convertServerConfig (config : ServerConfigPromptResult Json.Number) :
    Except String (ServerConfigPromptResult Port) := do
  let port ← asPort config.port
  let redisPort ← (nonZero config.redisPort).mapM asPort
  .ok { config with port := port, redisPort := redisPort }

/-- `parseWizardState`: `null` for a value that the schema rejects, and a throw for a branded
field that its check rejects. -/
def parseWizardState (raw : Json.Value) : Except String (Option Session) :=
  match WizardStateSchema raw with
  | none => .ok none
  | some validated => do
    let providers ← validated.data.providers.mapM (collect convertProvider)
    let clients ← validated.data.clients.mapM (collect convertClient)
    let serverConfig ← validated.data.serverConfig.mapM convertServerConfig
    .ok (some { validated with
      data := { masterKey := nonEmpty validated.data.masterKey
                providers := providers
                models := validated.data.models.map (·.map convertModel)
                clients := clients
                serverConfig := serverConfig } })

/-! ## The state file -/

def CliRateLimit.raw (r : CliRateLimit AtLeastOne) : CliRateLimit Json.Number where
  rps := r.rps
  burst := r.burst
  maxConcurrentStreams := r.maxConcurrentStreams.map Subtype.val

def CliAiProvider.raw (p : CliAiProvider BaseUrl) : CliAiProvider String :=
  { p with baseUrl := p.baseUrl.map Subtype.val }

def GatewayClient.raw (c : GatewayClient AtLeastOne) : GatewayClient Json.Number :=
  { c with rateLimit := c.rateLimit.map CliRateLimit.raw }

def ServerConfigPromptResult.raw (c : ServerConfigPromptResult Port) : ServerConfigPromptResult Json.Number :=
  { c with port := c.port, redisPort := c.redisPort.map Subtype.val }

def WizardData.raw (d : WizardData BaseUrl AtLeastOne Port) : WizardData String Json.Number Json.Number where
  masterKey := d.masterKey
  providers := d.providers.map (·.map CliAiProvider.raw)
  models := d.models
  clients := d.clients.map (·.map GatewayClient.raw)
  serverConfig := d.serverConfig.map ServerConfigPromptResult.raw

/-- The session as it is at run time, where a branded value is a plain one. -/
def WizardSession.raw (s : Session) : RawSession := { s with data := s.data.raw }

/-- The text that `saveState` writes. -/
def saveState (state : Session) : String := Json.stringifyIndented state.raw.toJson

inductive LoadError where
  /-- `JSON.parse` threw. -/
  | syntaxError
  /-- A branded field was rejected. -/
  | brand (message : String)
  deriving DecidableEq, Repr

/-- `loadState` on what the state file holds: no session where there is no file (`ENOENT`) or the
schema rejects it; every other error goes on to the caller. -/
def loadState : Option String → Except LoadError (Option Session)
  | none => .ok none
  | some content =>
    match Json.parse content with
    | none => .error .syntaxError
    | some raw => (parseWizardState raw).mapError .brand

/-! ## A saved session, loaded -/

def CliAiProvider.reloaded (p : CliAiProvider BaseUrl) : CliAiProvider BaseUrl :=
  { p with baseUrlRef := nonEmpty p.baseUrlRef }

def WizardData.reloaded (d : WizardData BaseUrl AtLeastOne Port) : WizardData BaseUrl AtLeastOne Port :=
  { d with masterKey := nonEmpty d.masterKey
           providers := d.providers.map (·.map CliAiProvider.reloaded) }

/-- What is left of a session that is saved and loaded. -/
def WizardSession.reloaded (s : Session) : Session := { s with data := s.data.reloaded }

theorem mapM_val {α β : Type} {p : α → Prop} {f : α → Except β {a // p a}} (hf : ∀ a : {a // p a}, f a.val = .ok a)
    (o : Option {a // p a}) : (o.map Subtype.val).mapM f = .ok o := by
  cases o with
  | none => rfl
  | some a => simp [hf, Functor.map, Except.map]

theorem collect_map {α β γ ε : Type} {f : β → Except ε γ} {g : α → β} {h : α → γ} (hf : ∀ a, f (g a) = .ok (h a))
    (items : List α) : collect f (items.map g) = .ok (items.map h) := by
  induction items with
  | nil => rfl
  | cons a items ih => simp [collect, hf, ih, bind, Except.bind]

theorem mapM_map {α β γ ε : Type} {f : β → Except ε γ} {g : α → β} {h : α → γ} (hf : ∀ a, f (g a) = .ok (h a))
    (o : Option α) : (o.map g).mapM f = .ok (o.map h) := by
  cases o with
  | none => rfl
  | some a => simp [hf, Functor.map, Except.map]

/-- A branded number is truthy. -/
theorem nonZero_val {p : Json.Number → Prop} (hp : ∀ n, p n → 1 ≤ n.value) (o : Option {n // p n}) :
    nonZero (o.map Subtype.val) = o.map Subtype.val := by
  cases o with
  | none => rfl
  | some n => simp [nonZero, truthy_of_one_le (hp n.val n.property)]

/-- A branded URL is truthy: it has a scheme. -/
theorem nonEmpty_val (o : Option BaseUrl) : nonEmpty (o.map Subtype.val) = o.map Subtype.val := by
  cases o with
  | none => rfl
  | some u =>
    have hne : u.val ≠ "" := by
      intro hempty
      have hscheme := u.property
      rw [hempty] at hscheme
      exact absurd hscheme (by decide)
    simp [nonEmpty, hne]

theorem convertRateLimit_raw (r : CliRateLimit AtLeastOne) : convertRateLimit r.raw = .ok r := by
  have hmax : (nonZero (r.maxConcurrentStreams.map Subtype.val)).mapM asMaxConcurrentStreams =
      .ok r.maxConcurrentStreams := by
    rw [nonZero_val fun n hn => hn.2]
    exact mapM_val (asAtLeastOne_val _) r.maxConcurrentStreams
  simp only [convertRateLimit, CliRateLimit.raw, asRateLimitRps, asRateLimitBurst, asAtLeastOne_val, hmax, bind,
    Except.bind]

theorem convertProvider_raw (p : CliAiProvider BaseUrl) : convertProvider p.raw = .ok p.reloaded := by
  have hurl : (nonEmpty (p.baseUrl.map Subtype.val)).mapM asBaseUrl = .ok p.baseUrl := by
    rw [nonEmpty_val]
    exact mapM_val asBaseUrl_val p.baseUrl
  simp only [convertProvider, CliAiProvider.raw, CliAiProvider.reloaded, hurl, bind, Except.bind]

theorem convertClient_raw (c : GatewayClient AtLeastOne) : convertClient c.raw = .ok c := by
  have hlimit : (c.rateLimit.map CliRateLimit.raw).mapM convertRateLimit = .ok c.rateLimit := by
    rw [mapM_map convertRateLimit_raw, Option.map_id']
  simp only [convertClient, GatewayClient.raw, hlimit, bind, Except.bind]

theorem convertServerConfig_raw (c : ServerConfigPromptResult Port) : convertServerConfig c.raw = .ok c := by
  have hredis : (nonZero (c.redisPort.map Subtype.val)).mapM asPort = .ok c.redisPort := by
    rw [nonZero_val fun n hn => hn.2.1]
    exact mapM_val asPort_val c.redisPort
  simp only [convertServerConfig, ServerConfigPromptResult.raw, asPort_val, hredis, bind, Except.bind]

theorem parseWizardState_raw (s : Session) : parseWizardState s.raw.toJson = .ok (some s.reloaded) := by
  have hproviders : (s.data.providers.map (·.map CliAiProvider.raw)).mapM (collect convertProvider) =
      .ok (s.data.providers.map (·.map CliAiProvider.reloaded)) :=
    mapM_map (collect_map convertProvider_raw) s.data.providers
  have hclients : (s.data.clients.map (·.map GatewayClient.raw)).mapM (collect convertClient) =
      .ok s.data.clients := by
    rw [mapM_map (collect_map convertClient_raw), List.map_id_fun', Option.map_id, id]
  have hserver : (s.data.serverConfig.map ServerConfigPromptResult.raw).mapM convertServerConfig =
      .ok s.data.serverConfig := by
    rw [mapM_map convertServerConfig_raw, Option.map_id']
  have hmodels : (s.data.models.map (·.map convertModel)) = s.data.models := by
    have hid : convertModel = id := rfl
    simp [hid]
  simp only [parseWizardState, WizardStateSchema_toJson]
  simp [WizardSession.raw, WizardData.raw, WizardSession.reloaded, WizardData.reloaded, hproviders, hclients, hserver,
    hmodels, bind, Except.bind]

/-- Saving a session and loading it back gives the session, apart from the empty texts that are
taken for missing ones. -/
theorem loadState_saveState (s : Session) : loadState (some (saveState s)) = .ok (some s.reloaded) := by
  simp only [loadState, saveState, Json.parse_stringifyIndented, parseWizardState_raw, Except.mapError]

end AiGateway.Cli.Wizard
