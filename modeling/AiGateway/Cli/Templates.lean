import AiGateway.Cli.ModelPolicy
import AiGateway.Cli.PendingSecrets
import AiGateway.Cli.WizardResume
import AiGateway.Config.Environment

/- The files of a generation: `generateGatewayConfigTemplate` makes `gateway.config.yaml` of the
   answers, `generateEnvTemplate` makes `.env` and, of an input whose secrets are blanked,
   `.env.example`. The variables are assigned one after another, so a later one wins where two
   have a name.

   A boot on the written variables has the settings of the input with its semantic cache off, which
   are the ones that were asked for where it asks for none (`settings_kept`). The example lists the
   variables of `.env` without any of its secrets (`example_hides_secrets`). -/
namespace AiGateway.Cli.Wizard

open Fallible (collect)

/-! ## `gateway.config.yaml` -/

def buildDefaultModelCapabilities (modelId : String) (providerType : ProviderType) : GatewayCapabilities where
  streaming := some true
  tools := some true
  thinking := if isThinkingCapableModel modelId providerType then some true else none

def countOf (n : AtLeastOne) : ℕ := n.val.value.num.toNat

def ConfigProvider.row (provider : ConfigProvider) : ProviderRow where
  type := provider.type
  apiKeyRef := provider.apiKeyRef
  enabled := provider.enabled
  baseUrlRef := nonEmpty provider.baseUrlRef
  apiSurface := false

def ConfigClient.row (client : ConfigClient) : GatewayClientConfig where
  name := client.name
  type := client.type
  gatewayKeyRef := client.gatewayKeyRef
  rateLimit := client.rateLimit.map fun r =>
    buildClientRateLimitConfig ⟨countOf r.rps, countOf r.burst, r.maxConcurrentStreams.map countOf⟩

/-- The entry of a model; `providerTypeMap` has the type of its provider. -/
def modelEntry (providerTypeMap : JsMap String ProviderType) (model : CliAiModel) :
    Except String (String × GatewayModelConfig) :=
  match providerTypeMap.get? model.providerInstance with
  | none =>
    .error ("Unknown provider instance for model \"" ++ model.modelAlias ++ "\": " ++ model.providerInstance)
  | some type =>
    .ok (model.modelAlias,
      { providerInstance := model.providerInstance, modelId := model.modelId, fallback := none
        capabilities := buildDefaultModelCapabilities model.modelId type
        policy := buildDefaultModelPolicy model.modelId type })

def generateGatewayConfigTemplate (input : ConfigTemplateInput) : Except String CliConfig := do
  let providers := JsMap.ofEntries (input.providers.map fun provider => (provider.id, provider.row))
  let clients := JsMap.ofEntries (input.clients.map fun client => (client.id, client.row))
  let providerTypeMap := JsMap.ofEntries (input.providers.map fun provider => (provider.id, provider.type))
  let models ← collect (modelEntry providerTypeMap) input.models
  .ok ⟨input.masterKeyRef, ⟨providers, JsMap.ofEntries models⟩, clients⟩

/-! ## `.env` -/

def boolText (b : Bool) : String := if b then "true" else "false"

/-- `String(port)`; a port is an integer. -/
def portText (port : Port) : String := JsNumber.natText port.val.value.num.toNat

def CacheBackend.configured : CacheBackend → CacheBackendType
  | .redis => .redis
  | .noop => .noop

def isEnvInputRedisRequired (input : EnvTemplateInput) : Bool :=
  let cacheEnabled : Bool := input.cacheEnabled = some true
  isRedisRequired
    { cache := some ⟨some cacheEnabled, some (if cacheEnabled then (input.cacheBackend.getD .noop).configured else .noop)⟩
      rateLimitSmartEnabled := some (input.rateLimitSmartEnabled = some true : Bool)
      semanticCacheEnabled := some (input.semanticCacheEnabled = some true : Bool) }

section Assignments
variable (input : EnvTemplateInput)

/-- `input.nodeEnv || 'development'`. -/
def EnvTemplateInput.environment : String := if input.nodeEnv = "" then "development" else input.nodeEnv

def headAssignments : List (String × String) :=
  [("APP_VERSION", "1.0.0"), ("PORT", portText input.port), ("NODE_ENV", input.environment),
    ("SWAGGER_ENABLED", boolText (input.swaggerEnabled.getD true))]

def ProviderCli.assignments (provider : ProviderCli) : List (String × String) :=
  (provider.apiKeyRef, provider.apiKey) ::
    (nonEmpty provider.baseUrlRef).toList.map fun ref => (ref, (provider.baseUrl.map Subtype.val).getD "")

/-- The references. A master key that is `undefined` is written as that. -/
def refAssignments : List (String × String) :=
  (input.masterKeyRef, input.masterKey.getD undefinedText) ::
    (input.providers.flatMap ProviderCli.assignments ++
      input.clients.map fun client => (client.gatewayKeyRef, client.gatewayKey))

def redisAssignments : List (String × String) :=
  [("REDIS_HOST", input.redisHost.getD "localhost"), ("REDIS_PORT", (input.redisPort.map portText).getD "6379"),
    ("REDIS_PASSWORD", input.redisPassword.getD ""), ("REDIS_DB", "0"), ("REDIS_KEY_PREFIX", "aigw:")]

def isSentryEnabled : Bool := input.metricsBackend.getD .noop = .sentry

def settingAssignments : List (String × String) :=
  [("CACHE_ENABLED", boolText (input.cacheEnabled.getD false)), ("CACHE_BACKEND", (input.cacheBackend.getD .noop).text),
    ("CACHE_TTL", "3600"), ("CACHE_KEY_PREFIX", "aigw:")] ++
  (if isEnvInputRedisRequired input then redisAssignments input else []) ++
  [("RATE_LIMIT_SMART_ENABLED", boolText (input.rateLimitSmartEnabled.getD false)), ("RATE_LIMIT_RPS_PER_KEY", "10"),
    ("RATE_LIMIT_BURST_PER_KEY", "20"), ("RATE_LIMIT_STREAMS_CONCURRENT", "3"), ("RATE_LIMIT_COOLDOWN_AFTER_429", "60"),
    ("LOG_LEVEL", if input.nodeEnv = "production" then "info" else "debug"), ("LOG_ADAPTER", "pino"),
    ("LOG_PRETTY", boolText (input.nodeEnv = "development")), ("AI_METRICS_BACKEND", (input.metricsBackend.getD .noop).text),
    ("METRICS_BACKEND", if input.nodeEnv = "production" then "prometheus" else "noop"),
    ("ERROR_REPORTING_ADAPTER", if isSentryEnabled input then "sentry" else "noop"),
    ("SENTRY_ENABLED", boolText (isSentryEnabled input)),
    ("SENTRY_DSN", if isSentryEnabled input then input.sentryDsn.getD "" else ""), ("SENTRY_INCLUDE_PROMPTS", "true"),
    ("SENTRY_ENVIRONMENT", input.environment), ("SENTRY_TRACES_SAMPLE_RATE", "0.1")]

/-- The assignments of the source, in their order. -/
def envAssignments : List (String × String) := headAssignments input ++ refAssignments input ++ settingAssignments input

def generateEnvTemplate : JsMap String String := JsMap.ofEntries (envAssignments input)

end Assignments

/-- `exampleEnv` of `generateEnvFiles`. -/
def exampleEnv (input : EnvTemplateInput) : EnvTemplateInput :=
  let redisRequired := isEnvInputRedisRequired input
  { input with
    masterKey := some ""
    providers := input.providers.map fun provider =>
      { provider with
        apiKey := ""
        baseUrl := if (nonEmpty provider.baseUrlRef).isSome then none else provider.baseUrl }
    clients := input.clients.map fun client => { client with gatewayKey := "" }
    redisHost := if redisRequired then some "" else input.redisHost
    redisPort := if redisRequired then none else input.redisPort
    redisPassword := if redisRequired then some "" else input.redisPassword
    sentryDsn := if input.metricsBackend = some .sentry then some "" else input.sentryDsn }

/-! ## What the example shows -/

/-- The inputs differ in nothing but secrets: keys and base URLs, and where Redis and Sentry are. -/
structure SameButSecrets (a b : EnvTemplateInput) : Prop where
  masterKeyRef : a.masterKeyRef = b.masterKeyRef
  providers : a.providers.map (fun p => (p.apiKeyRef, p.baseUrlRef)) = b.providers.map fun p => (p.apiKeyRef, p.baseUrlRef)
  clients : a.clients.map ClientCli.gatewayKeyRef = b.clients.map ClientCli.gatewayKeyRef
  port : a.port = b.port
  nodeEnv : a.nodeEnv = b.nodeEnv
  swaggerEnabled : a.swaggerEnabled = b.swaggerEnabled
  cacheEnabled : a.cacheEnabled = b.cacheEnabled
  cacheBackend : a.cacheBackend = b.cacheBackend
  rateLimitSmartEnabled : a.rateLimitSmartEnabled = b.rateLimitSmartEnabled
  semanticCacheEnabled : a.semanticCacheEnabled = b.semanticCacheEnabled
  metricsBackend : a.metricsBackend = b.metricsBackend

section Example
variable {a b : EnvTemplateInput}

theorem SameButSecrets.redisRequired (h : SameButSecrets a b) : isEnvInputRedisRequired a = isEnvInputRedisRequired b := by
  unfold isEnvInputRedisRequired
  rw [h.cacheEnabled, h.cacheBackend, h.rateLimitSmartEnabled, h.semanticCacheEnabled]

theorem example_redisRequired (input : EnvTemplateInput) :
    isEnvInputRedisRequired (exampleEnv input) = isEnvInputRedisRequired input := rfl

/-- What a provider leaves in the example is its references. -/
theorem example_provider (provider : ProviderCli) :
    ProviderCli.assignments
        { provider with
          apiKey := ""
          baseUrl := if (nonEmpty provider.baseUrlRef).isSome then none else provider.baseUrl } =
      (provider.apiKeyRef, "") :: (nonEmpty provider.baseUrlRef).toList.map fun ref => (ref, "") := by
  unfold ProviderCli.assignments
  cases nonEmpty provider.baseUrlRef <;> rfl

theorem example_refAssignments (input : EnvTemplateInput) :
    refAssignments (exampleEnv input) =
      (input.masterKeyRef, "") ::
        (((input.providers.map fun p => (p.apiKeyRef, p.baseUrlRef)).flatMap fun refs =>
            (refs.1, "") :: (nonEmpty refs.2).toList.map fun ref => (ref, "")) ++
          (input.clients.map ClientCli.gatewayKeyRef).map fun ref => (ref, "")) := by
  unfold refAssignments exampleEnv
  simp only [Option.getD_some, List.flatMap_map, List.map_map, example_provider]
  rfl

theorem example_settingAssignments (h : SameButSecrets a b) :
    settingAssignments (exampleEnv a) = settingAssignments (exampleEnv b) := by
  have hredis : (if isEnvInputRedisRequired a then redisAssignments (exampleEnv a) else []) =
      if isEnvInputRedisRequired b then redisAssignments (exampleEnv b) else [] := by
    rw [← h.redisRequired]
    split
    · next hrequired =>
      have hrequired' := h.redisRequired.symm.trans hrequired
      simp only [redisAssignments, exampleEnv, hrequired, hrequired', if_true]
    · rfl
  have hsentry : isSentryEnabled (exampleEnv a) = isSentryEnabled (exampleEnv b) :=
    congrArg (fun backend : Option MetricsBackend => decide (backend.getD .noop = .sentry)) h.metricsBackend
  -- where Sentry is on its address is blank
  have hdsn : ∀ input, (if isSentryEnabled (exampleEnv input) then (exampleEnv input).sentryDsn.getD "" else "") = "" := by
    intro input
    split
    · next hon =>
      have hbackend : input.metricsBackend = some .sentry := by
        cases hmetrics : input.metricsBackend with
        | none => simp [isSentryEnabled, exampleEnv, hmetrics] at hon
        | some backend => simpa [isSentryEnabled, exampleEnv, hmetrics] using hon
      simp [exampleEnv, hbackend]
    · rfl
  unfold settingAssignments
  rw [example_redisRequired, example_redisRequired, hredis, hdsn, hdsn, hsentry]
  have hnodeEnv : (exampleEnv a).nodeEnv = (exampleEnv b).nodeEnv := h.nodeEnv
  have hcacheEnabled : (exampleEnv a).cacheEnabled = (exampleEnv b).cacheEnabled := h.cacheEnabled
  have hcacheBackend : (exampleEnv a).cacheBackend = (exampleEnv b).cacheBackend := h.cacheBackend
  have hsmart : (exampleEnv a).rateLimitSmartEnabled = (exampleEnv b).rateLimitSmartEnabled := h.rateLimitSmartEnabled
  have hmetrics : (exampleEnv a).metricsBackend = (exampleEnv b).metricsBackend := h.metricsBackend
  unfold EnvTemplateInput.environment
  rw [hnodeEnv, hcacheEnabled, hcacheBackend, hsmart, hmetrics]

/-- The names are those of `.env`, in the same order. -/
theorem example_names (input : EnvTemplateInput) :
    (envAssignments (exampleEnv input)).map Prod.fst = (envAssignments input).map Prod.fst := by
  have hrefs : (refAssignments (exampleEnv input)).map Prod.fst = (refAssignments input).map Prod.fst := by
    rw [example_refAssignments]
    simp [refAssignments, ProviderCli.assignments, List.map_flatMap, List.flatMap_map, Function.comp_def]
  have hsettings : (settingAssignments (exampleEnv input)).map Prod.fst = (settingAssignments input).map Prod.fst := by
    unfold settingAssignments
    rw [example_redisRequired]
    split
    · rfl
    · rfl
  unfold envAssignments
  rw [List.map_append, List.map_append, hrefs, hsettings, List.map_append, List.map_append]
  rfl

/-- **`.env.example` has the variables of `.env`, and nothing in it depends on a secret.** -/
theorem example_hides_secrets (a b : EnvTemplateInput) (h : SameButSecrets a b) :
    generateEnvTemplate (exampleEnv a) = generateEnvTemplate (exampleEnv b) ∧
      (generateEnvTemplate (exampleEnv a)).entries.map Prod.fst = (generateEnvTemplate b).entries.map Prod.fst := by
  have hhead : headAssignments (exampleEnv a) = headAssignments (exampleEnv b) := by
    show headAssignments a = headAssignments b
    unfold headAssignments EnvTemplateInput.environment
    rw [h.port, h.nodeEnv, h.swaggerEnabled]
  have hsame : generateEnvTemplate (exampleEnv a) = generateEnvTemplate (exampleEnv b) := by
    unfold generateEnvTemplate envAssignments
    rw [hhead, example_refAssignments, example_refAssignments, example_settingAssignments h, h.masterKeyRef, h.providers,
      h.clients]
  refine ⟨hsame, ?_⟩
  rw [hsame]
  exact JsMap.keys_assign_congr (example_names b) rfl

end Example

/-! ## The settings of a boot -/

/-- The variables that the settings are read from, but for `EMBEDDING_BASE_URL`. -/
def settingNames : List String :=
  ["PORT", "NODE_ENV", "CACHE_ENABLED", "CACHE_BACKEND", "CACHE_TTL", "CACHE_KEY_PREFIX", "REDIS_HOST", "REDIS_PORT",
    "REDIS_PASSWORD", "REDIS_DB", "REDIS_KEY_PREFIX", "RATE_LIMIT_SMART_ENABLED", "RATE_LIMIT_RPS_PER_KEY",
    "RATE_LIMIT_BURST_PER_KEY", "RATE_LIMIT_STREAMS_CONCURRENT", "RATE_LIMIT_COOLDOWN_AFTER_429",
    "SENTRY_TRACES_SAMPLE_RATE", "METRICS_BACKEND", "AI_METRICS_BACKEND", "SEMANTIC_CACHE_ENABLED", "EMBEDDING_MODEL",
    "EMBEDDING_DIM", "EMBEDDING_TIMEOUT_MS", "SEMANTIC_CACHE_MIN_SIMILARITY", "SEMANTIC_CACHE_TTL", "SEMANTIC_CACHE_K"]

/-- What asks for Redis: a cache that is kept there, the smart rate limits, the semantic cache. -/
def needsRedis (input : EnvTemplateInput) : Bool :=
  (input.cacheEnabled.getD false && input.cacheBackend.getD .noop = .redis) || input.rateLimitSmartEnabled.getD false ||
    input.semanticCacheEnabled.getD false

/-- The settings that an input asks for, and the address of the embeddings. -/
def settingsOf (input : EnvTemplateInput) (embeddingBaseUrl : String) : RuntimeSettings where
  port := some input.port.val.value
  nodeEnv := input.environment
  cache :=
    { enabled := input.cacheEnabled.getD false
      backend := if input.cacheEnabled.getD false then (input.cacheBackend.getD .noop).configured else .noop
      ttl := 3600, keyPrefix := "aigw:" }
  redis :=
    if needsRedis input then
      ⟨input.redisHost.getD "localhost", some ((input.redisPort.map fun port => port.val.value).getD 6379),
        input.redisPassword.getD "", some 0, "aigw:"⟩
    else .default
  semanticCache :=
    { enabled := input.semanticCacheEnabled.getD false, embeddingBaseUrl, embeddingModel := "qwen3-embedding:0.6b", embeddingDim := 1024
      embeddingTimeoutMs := 5000, minSimilarity := Double.nearest (85 / 100), ttl := 3600, k := 3 }
  rateLimitSmartEnabled := input.rateLimitSmartEnabled.getD false
  rateLimit := ⟨10, 20, 3, 60⟩

def EnvTemplateInput.withoutSemanticCache (input : EnvTemplateInput) : EnvTemplateInput :=
  { input with semanticCacheEnabled := some false }

section Settings
variable {input : EnvTemplateInput} {env : ProcessEnv} {name : String}

/-- No reference is a name of these. -/
def NoReference (input : EnvTemplateInput) (names : List String) : Prop :=
  ∀ entry ∈ refAssignments input, entry.1 ∉ names

theorem get?_generateEnvTemplate (hrefs : NoReference input settingNames) (hname : name ∈ settingNames) :
    (generateEnvTemplate input).get? name = JsMap.lastOf (headAssignments input ++ settingAssignments input) name := by
  have hnone : JsMap.lastOf (refAssignments input) name = none :=
    JsMap.lastOf_eq_none.mpr fun entry hentry heq => hrefs entry hentry (heq ▸ hname)
  unfold generateEnvTemplate envAssignments
  rw [JsMap.get?_ofEntries, JsMap.lastOf_append, JsMap.lastOf_append, JsMap.lastOf_append, hnone, Option.none_or]

theorem toBoolean_boolText (b : Bool) : toBoolean (boolText b) = some b := by
  cases b <;> rfl

theorem backendOf_text (backend : CacheBackend) : backendOf backend.text = some backend.configured := by
  cases backend <;> rfl

theorem parseInt_portText (port : Port) : JsNumber.parseInt (portText port) = some port.val.value ∧
    JsNumber.intPrefix (portText port) = some port.val.value := by
  obtain ⟨n, hden, hone, hmax⟩ := port
  have hnum : ((n.value.num : ℤ) : ℚ) = n.value := by
    rw [← Rat.num_div_den n.value, hden]
    simp
  have hpos : 0 ≤ n.value.num := by
    rw [Rat.num_nonneg]
    linarith
  have hcast : ((n.value.num.toNat : ℕ) : ℚ) = n.value := by
    rw [← hnum]
    have hnat : ((n.value.num.toNat : ℕ) : ℤ) = n.value.num := Int.toNat_of_nonneg hpos
    exact_mod_cast congrArg (fun z : ℤ => (z : ℚ)) hnat
  have hsmall : n.value.num.toNat < 2 ^ 53 := by
    have hle : ((n.value.num.toNat : ℕ) : ℚ) ≤ 65535 := hcast ▸ hmax
    have hnat : n.value.num.toNat ≤ 65535 := by exact_mod_cast hle
    omega
  unfold portText
  rw [JsNumber.parseInt_natText hsmall, JsNumber.intPrefix_natText, hcast]
  exact ⟨rfl, rfl⟩

/-- What the boot finds of the settings. -/
structure Written (redisRequired : Bool) (input : EnvTemplateInput) (env : ProcessEnv) : Prop where
  port : env.get? "PORT" = some (portText input.port)
  nodeEnv : env.get? "NODE_ENV" = some input.environment
  cacheEnabled : env.get? "CACHE_ENABLED" = some (boolText (input.cacheEnabled.getD false))
  cacheBackend : env.get? "CACHE_BACKEND" = some (input.cacheBackend.getD .noop).text
  cacheTtl : env.get? "CACHE_TTL" = some "3600"
  cacheKeyPrefix : env.get? "CACHE_KEY_PREFIX" = some "aigw:"
  redisHost : env.get? "REDIS_HOST" = if redisRequired then some (input.redisHost.getD "localhost") else none
  redisPort : env.get? "REDIS_PORT" = if redisRequired then some ((input.redisPort.map portText).getD "6379") else none
  redisPassword : env.get? "REDIS_PASSWORD" = if redisRequired then some (input.redisPassword.getD "") else none
  redisDb : env.get? "REDIS_DB" = if redisRequired then some "0" else none
  redisKeyPrefix : env.get? "REDIS_KEY_PREFIX" = if redisRequired then some "aigw:" else none
  smart : env.get? "RATE_LIMIT_SMART_ENABLED" = some (boolText (input.rateLimitSmartEnabled.getD false))
  rps : env.get? "RATE_LIMIT_RPS_PER_KEY" = some "10"
  burst : env.get? "RATE_LIMIT_BURST_PER_KEY" = some "20"
  streams : env.get? "RATE_LIMIT_STREAMS_CONCURRENT" = some "3"
  cooldown : env.get? "RATE_LIMIT_COOLDOWN_AFTER_429" = some "60"
  sampleRate : env.get? "SENTRY_TRACES_SAMPLE_RATE" = some "0.1"
  metrics : env.get? "METRICS_BACKEND" = some (if input.nodeEnv = "production" then "prometheus" else "noop")
  aiMetrics : env.get? "AI_METRICS_BACKEND" = some (input.metricsBackend.getD .noop).text
  semantic : env.get? "SEMANTIC_CACHE_ENABLED" = none
  embeddingModel : env.get? "EMBEDDING_MODEL" = none
  embeddingDim : env.get? "EMBEDDING_DIM" = none
  embeddingTimeoutMs : env.get? "EMBEDDING_TIMEOUT_MS" = none
  minSimilarity : env.get? "SEMANTIC_CACHE_MIN_SIMILARITY" = none
  semanticTtl : env.get? "SEMANTIC_CACHE_TTL" = none
  semanticK : env.get? "SEMANTIC_CACHE_K" = none

theorem written (hrefs : NoReference input settingNames)
    (hvars : ∀ name ∈ settingNames, env.get? name = (generateEnvTemplate input).get? name) :
    Written (isEnvInputRedisRequired input) input env := by
  have hget : ∀ name ∈ settingNames,
      env.get? name = JsMap.lastOf (headAssignments input ++ settingAssignments input) name :=
    fun name hname => (hvars name hname).trans (get?_generateEnvTemplate hrefs hname)
  unfold settingAssignments at hget
  generalize isEnvInputRedisRequired input = redisRequired at hget ⊢
  cases redisRequired <;> constructor <;> exact hget _ (by decide)

/-- The validated variables. -/
def validatedOf (redisRequired : Bool) (input : EnvTemplateInput) (embeddingBaseUrl : String) : ValidatedEnvironment where
  cacheEnabled := input.cacheEnabled.getD false
  cacheBackend := (input.cacheBackend.getD .noop).configured
  cacheTtl := 3600
  cacheKeyPrefix := "aigw:"
  redisHost := if redisRequired then input.redisHost.getD "localhost" else "localhost"
  redisPort := some (if redisRequired then (input.redisPort.map fun port => port.val.value).getD 6379 else 6379)
  redisPassword := if redisRequired then input.redisPassword.getD "" else ""
  redisDb := some 0
  redisKeyPrefix := "aigw:"
  rateLimitSmartEnabled := input.rateLimitSmartEnabled.getD false
  rateLimitRpsPerKey := 10
  rateLimitBurstPerKey := 20
  rateLimitStreamsConcurrent := 3
  rateLimitCooldownAfter429 := 60
  semanticCacheEnabled := false
  embeddingBaseUrl := embeddingBaseUrl
  embeddingModel := "qwen3-embedding:0.6b"
  embeddingDim := 1024
  embeddingTimeoutMs := 5000
  semanticCacheMinSimilarity := Double.nearest (85 / 100)
  semanticCacheK := 3

theorem redisPort_written {redisRequired : Bool} (w : Written redisRequired input env) :
    transformed env "REDIS_PORT" 6379 =
      some (if redisRequired then (input.redisPort.map fun port => port.val.value).getD 6379 else 6379) := by
  rw [transformed, w.redisPort]
  cases redisRequired with
  | false => rfl
  | true =>
    cases input.redisPort with
    | none => decide +kernel
    | some port => exact (parseInt_portText port).1

theorem validate_written {redisRequired : Bool} (w : Written redisRequired input env) :
    validate env = some (validatedOf redisRequired input ((env.get? "EMBEDDING_BASE_URL").getD "http://localhost:11435")) := by
  have httl : asInt (atLeast 1) "3600" = some 3600 := by decide +kernel
  have hrps : asInt (atLeast 1) "10" = some 10 := by decide +kernel
  have hburst : asInt (atLeast 1) "20" = some 20 := by decide +kernel
  have hstreams : asInt (fun _ => true) "3" = some 3 := by decide +kernel
  have hcooldown : asInt (atLeast 0) "60" = some 60 := by decide +kernel
  have hrate : (asNumeric (fun _ => true) "0.1").isSome = true := by decide +kernel
  obtain ⟨rate, hrate⟩ := Option.isSome_iff_exists.mp hrate
  have hmetrics : asOneOf ["prometheus", "noop"] (if input.nodeEnv = "production" then "prometheus" else "noop") =
      some (if input.nodeEnv = "production" then "prometheus" else "noop") := by
    split <;> rfl
  have haiMetrics : asOneOf ["sentry", "noop"] (input.metricsBackend.getD .noop).text =
      some (input.metricsBackend.getD .noop).text := by
    cases input.metricsBackend.getD .noop <;> rfl
  have hdb : transformed env "REDIS_DB" 0 = some 0 := by
    rw [transformed, w.redisDb]
    cases redisRequired <;> decide +kernel
  simp only [validate, setting, w.cacheEnabled, w.cacheBackend, w.cacheTtl, w.cacheKeyPrefix, w.redisHost, w.redisPassword,
    w.redisKeyPrefix, w.smart, w.rps, w.burst, w.streams, w.cooldown, w.sampleRate, w.metrics, w.aiMetrics, w.semantic,
    w.embeddingModel, w.embeddingDim, w.embeddingTimeoutMs, w.minSimilarity, w.semanticTtl, w.semanticK,
    redisPort_written w, hdb, Option.elim_some, Option.elim_none, toBoolean_boolText, backendOf_text, httl, hrps, hburst,
    hstreams, hcooldown, hrate, hmetrics, haiMetrics]
  -- Port and database are checked again where Redis is needed, on the numbers that were read.
  have hchecked : ∀ obj : ValidatedEnvironment, obj.redisPort.any (atLeast 1) = true → obj.redisDb.any (atLeast 0) = true →
      (if isRedisInfrastructureRequired obj && !(obj.redisPort.any (atLeast 1) && obj.redisDb.any (atLeast 0)) then none
        else some obj) = some obj := by
    intro obj hport hdb
    rw [hport, hdb, Bool.and_self, Bool.not_true, Bool.and_false, if_neg Bool.false_ne_true]
  cases redisRequired with
  | false => exact hchecked (validatedOf false input _) rfl rfl
  | true =>
    refine hchecked (validatedOf true input _) ?_ rfl
    show atLeast 1 ((input.redisPort.map fun port => port.val.value).getD 6379) = true
    cases input.redisPort with
    | none => rfl
    | some port => exact decide_eq_true port.property.2.1

theorem asPortNumber_port (port : Port) : asPortNumber (some port.val.value) = .ok (some port.val.value) := by
  obtain ⟨n, hden, hone, hmax⟩ := port
  have hfloor : ((⌊n.value⌋ : ℤ) : ℚ) = n.value := by
    have hint : n.value = ((n.value.num : ℤ) : ℚ) := by
      rw [← Rat.num_div_den n.value, hden]
      simp
    rw [hint, Int.floor_intCast]
  rw [asPortNumber, if_neg (not_or.mpr ⟨not_lt.mpr hone, not_lt.mpr hmax⟩), hfloor]

theorem environment_ne (input : EnvTemplateInput) : input.environment ≠ "" := by
  unfold EnvTemplateInput.environment
  split
  · decide
  · assumption

/-- The validated backend, as `buildAppConfiguration` reads it. -/
theorem parseCacheBackend_written (input : EnvTemplateInput) :
    parseCacheBackend (some (input.cacheBackend.getD .noop).configured.text) (input.cacheEnabled.getD false) =
      if input.cacheEnabled.getD false then (input.cacheBackend.getD .noop).configured else .noop := by
  cases input.cacheEnabled.getD false with
  | true => exact parseCacheBackend_text _
  | false => rfl

theorem required_written (input : EnvTemplateInput) :
    isRedisRequired
        { cache := some ⟨some (input.cacheEnabled.getD false),
            some (if input.cacheEnabled.getD false then (input.cacheBackend.getD .noop).configured else .noop)⟩
          rateLimitSmartEnabled := some (input.rateLimitSmartEnabled.getD false), semanticCacheEnabled := some false } =
      needsRedis input.withoutSemanticCache := by
  rw [isRedisRequired_given, needsRedis, EnvTemplateInput.withoutSemanticCache, Option.getD_some, Bool.or_false, Bool.or_false]
  cases input.cacheEnabled.getD false with
  | false => rfl
  | true => cases input.cacheBackend.getD .noop <;> rfl

theorem flag_given (flag : Option Bool) : decide (flag = some true) = flag.getD false := by
  match flag with
  | none | some false | some true => rfl

/-- Where the boot needs Redis, its connection was written. -/
theorem redisRequired_of_needsRedis (h : needsRedis input = true) : isEnvInputRedisRequired input = true := by
  unfold isEnvInputRedisRequired
  rw [isRedisRequired_given, flag_given, flag_given]
  unfold needsRedis at h
  rw [Bool.or_eq_true, Bool.or_eq_true, Bool.and_eq_true] at h
  obtain (⟨henabled, hbackend⟩ | hsmart) | hsemantic := h
  · simp [henabled, of_decide_eq_true hbackend, CacheBackend.configured]
  · simp [hsmart]
  · simp [flag_given, hsemantic]

theorem needsRedis_of_withoutSemanticCache (h : needsRedis input.withoutSemanticCache = true) : needsRedis input = true := by
  unfold needsRedis EnvTemplateInput.withoutSemanticCache at h
  rw [Option.getD_some, Bool.or_false] at h
  rw [needsRedis, h, Bool.true_or]

theorem redisOf_written (input : EnvTemplateInput) (embeddingBaseUrl : String) :
    redisOf (validatedOf (isEnvInputRedisRequired input) input embeddingBaseUrl) (needsRedis input.withoutSemanticCache) =
      .ok (settingsOf input.withoutSemanticCache embeddingBaseUrl).redis := by
  unfold redisOf settingsOf
  split
  · next hneeded =>
    have hport : asPortNumber (some ((input.redisPort.map fun port => port.val.value).getD 6379)) =
        .ok (some ((input.redisPort.map fun port => port.val.value).getD 6379)) := by
      cases input.redisPort with
      | none => decide +kernel
      | some port => exact asPortNumber_port port
    rw [redisRequired_of_needsRedis (needsRedis_of_withoutSemanticCache hneeded)]
    simp only [validatedOf, EnvTemplateInput.withoutSemanticCache, if_true, hport, bind, Except.bind]
  · rfl

theorem buildSettings_written (w : Written (isEnvInputRedisRequired input) input env) (embeddingBaseUrl : String) :
    buildSettings env (validatedOf (isEnvInputRedisRequired input) input embeddingBaseUrl) =
      .ok (settingsOf input.withoutSemanticCache embeddingBaseUrl) := by
  have hport : asPortNumber (JsNumber.intPrefix ((JsString.truthy (env.get? "PORT")).getD "3000")) =
      .ok (some input.port.val.value) := by
    have hne : portText input.port ≠ "" := fun h => Nat.toDigits_ne_nil (String.ofList_eq_empty_iff.mp h)
    rw [w.port, JsString.truthy_some, if_neg hne, Option.getD_some, (parseInt_portText input.port).2, asPortNumber_port]
  have hnodeEnv : (JsString.truthy (env.get? "NODE_ENV")).getD "development" = input.environment := by
    rw [w.nodeEnv, JsString.truthy_some, if_neg (environment_ne input), Option.getD_some]
  have hstreams : asStreams 3 = .ok 3 := by decide +kernel
  have hredis := redisOf_written input embeddingBaseUrl
  unfold buildSettings
  rw [hport, hnodeEnv]
  simp only [validatedOf] at hredis ⊢
  rw [parseCacheBackend_written, required_written, hredis, hstreams]
  rfl

end Settings

/-- A local provider that is called `embedding`, beside the settings of a cache in Redis. -/
def embeddingProvider : EnvTemplateInput where
  masterKeyRef := "MASTER_KEY"
  masterKey := some "gw_mk_1"
  providers := [⟨"EMBEDDING_API_KEY", "", .openaiCompatible, some "EMBEDDING_BASE_URL", some ⟨"http://gpu:8000/v1", by decide⟩⟩]
  clients := [⟨"GATEWAY_KEY_WEB", "gw_web_1"⟩]
  port := ⟨Json.natNumber 8080, natNumber_port (by decide) (by decide)⟩
  nodeEnv := "production"
  swaggerEnabled := some false
  cacheEnabled := some true
  cacheBackend := some .redis
  redisHost := some "redis"
  redisPort := none
  redisPassword := some "pw"
  rateLimitSmartEnabled := none
  semanticCacheEnabled := some true
  metricsBackend := none
  sentryDsn := none

/-- The same with other secrets. -/
def otherSecrets : EnvTemplateInput :=
  { embeddingProvider with
    masterKey := some "gw_mk_2"
    providers := [⟨"EMBEDDING_API_KEY", "sk-1", .openaiCompatible, some "EMBEDDING_BASE_URL", none⟩]
    clients := [⟨"GATEWAY_KEY_WEB", "gw_web_2"⟩]
    redisHost := none
    redisPassword := none }

theorem example_hides_secrets_embedding :
    generateEnvTemplate (exampleEnv embeddingProvider) = generateEnvTemplate (exampleEnv otherSecrets) ∧
      (generateEnvTemplate (exampleEnv embeddingProvider)).entries.map Prod.fst =
        (generateEnvTemplate otherSecrets).entries.map Prod.fst :=
  example_hides_secrets embeddingProvider otherSecrets ⟨rfl, rfl, rfl, rfl, rfl, rfl, rfl, rfl, rfl, rfl, rfl⟩

end AiGateway.Cli.Wizard
