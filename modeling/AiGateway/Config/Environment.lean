import AiGateway.Config.ConfigurationValidation
import AiGateway.Lib.JsAssign
import AiGateway.Lib.JsInteger

/- The settings that come from the environment: `validate` over the variables of the process,
   the part of `buildAppConfiguration` that is made of them, and the predicates for who needs
   Redis. The modules are chosen by one of these from the raw variables, before anything is
   validated; the services ask another one of the built configuration, the validator has a
   third of its own. `required_agrees`: where the boot gets through, the three are one.

   A number is `none` for `NaN` and the infinities, which fail every check of the class alike. -/
namespace AiGateway

/-! ## Who needs Redis -/

/-- `CACHE_BACKEND_TYPE`. -/
inductive CacheBackendType where
  | noop | redis
  deriving DecidableEq, Repr

def CacheBackendType.text : CacheBackendType → String
  | .noop => "noop"
  | .redis => "redis"

/-- No letter but an ASCII one is a letter of the two names in lower case. -/
def parseCacheBackend (raw : Option String) (enabled : Bool) : CacheBackendType :=
  if !enabled then .noop
  else if (raw.getD "noop").toList.map Char.toLower = "redis".toList then .redis else .noop

inductive RedisConsumer where
  | cache | rateLimit | semanticCache
  deriving DecidableEq, Repr

structure CacheRequirement where
  enabled : Option Bool
  backend : Option CacheBackendType

structure RedisRequirementSnapshot where
  cache : Option CacheRequirement
  rateLimitSmartEnabled : Option Bool
  semanticCacheEnabled : Option Bool

def resolveCacheForRequirement (input : RedisRequirementSnapshot) : Bool × CacheBackendType :=
  let enabled := (input.cache.bind CacheRequirement.enabled) = some true
  let backendRaw := ((input.cache.bind CacheRequirement.backend).getD .noop).text
  (enabled, if enabled then parseCacheBackend (some backendRaw) true else .noop)

def getRedisConsumers (input : RedisRequirementSnapshot) : List RedisConsumer :=
  let (enabled, backend) := resolveCacheForRequirement input
  (if enabled && backend = .redis then [.cache] else []) ++
    (if input.rateLimitSmartEnabled = some true then [.rateLimit] else []) ++
    if input.semanticCacheEnabled = some true then [.semanticCache] else []

def isRedisRequired (input : RedisRequirementSnapshot) : Bool := (getRedisConsumers input).length > 0

/-- `env[name] === 'true'`. -/
def isTrue (env : ProcessEnv) (name : String) : Bool := env.get? name = some "true"

def isSemanticCacheEnabledFromEnv (env : ProcessEnv) : Bool := isTrue env "SEMANTIC_CACHE_ENABLED"

def isRedisRequiredFromEnv (env : ProcessEnv) : Bool :=
  let cacheEnabled := isTrue env "CACHE_ENABLED"
  isRedisRequired
    { cache := some ⟨some cacheEnabled, some (parseCacheBackend (env.get? "CACHE_BACKEND") cacheEnabled)⟩
      rateLimitSmartEnabled := some (isTrue env "RATE_LIMIT_SMART_ENABLED")
      semanticCacheEnabled := some (isSemanticCacheEnabledFromEnv env) }

/-! ## `EnvironmentVariables` -/

/-- The properties of the class that are read from it. `REDIS_PORT` and `REDIS_DB` are only
checked where Redis is required. -/
structure ValidatedEnvironment where
  cacheEnabled : Bool
  cacheBackend : CacheBackendType
  cacheTtl : ℚ
  cacheKeyPrefix : String
  redisHost : String
  redisPort : Option ℚ
  redisPassword : String
  redisDb : Option ℚ
  redisKeyPrefix : String
  rateLimitSmartEnabled : Bool
  rateLimitRpsPerKey : ℚ
  rateLimitBurstPerKey : ℚ
  rateLimitStreamsConcurrent : ℚ
  rateLimitCooldownAfter429 : ℚ
  semanticCacheEnabled : Bool
  embeddingBaseUrl : String
  embeddingModel : String
  embeddingDim : ℚ
  embeddingTimeoutMs : ℚ
  semanticCacheMinSimilarity : ℚ
  semanticCacheK : ℚ
  deriving DecidableEq

def isRedisInfrastructureRequired (obj : ValidatedEnvironment) : Bool :=
  (obj.cacheEnabled && obj.cacheBackend = .redis) || obj.rateLimitSmartEnabled || obj.semanticCacheEnabled

/-- A property: its default where there is no variable, else what is read of it. An empty text is
a variable. -/
def setting {α : Type} (env : ProcessEnv) (name : String) (default : α) (read : String → Option α) : Option α :=
  (env.get? name).elim (some default) read

/-- `toBoolean`. -/
def toBoolean (text : String) : Option Bool := some (text = "true")

/-- `toInt`, `@IsInt` and a bound. -/
def asInt (check : ℚ → Bool) (text : String) : Option ℚ := (JsNumber.parseInt text).filter check

/-- `toNumber`, `@IsNumber` and bounds. -/
def asNumeric (check : ℚ → Bool) (text : String) : Option ℚ := (JsNumber.ofText text).filter check

/-- `@IsIn`. -/
def asOneOf (texts : List String) (text : String) : Option String := if text ∈ texts then some text else none

def backendOf (text : String) : Option CacheBackendType :=
  if text = "noop" then some .noop else if text = "redis" then some .redis else none

def atLeast (min : ℚ) (n : ℚ) : Bool := min ≤ n

/-- The number of a variable that is transformed and not yet checked. -/
def transformed (env : ProcessEnv) (name : String) (default : ℚ) : Option ℚ :=
  (env.get? name).elim (some default) JsNumber.parseInt

/-- `validate`; nothing where it throws. -/
def validate (env : ProcessEnv) : Option ValidatedEnvironment := do
  let cacheEnabled ← setting env "CACHE_ENABLED" false toBoolean
  let cacheBackend ← setting env "CACHE_BACKEND" .noop backendOf
  let cacheTtl ← setting env "CACHE_TTL" 3600 (asInt (atLeast 1))
  let rateLimitSmartEnabled ← setting env "RATE_LIMIT_SMART_ENABLED" false toBoolean
  let rateLimitRpsPerKey ← setting env "RATE_LIMIT_RPS_PER_KEY" 10 (asInt (atLeast 1))
  let rateLimitBurstPerKey ← setting env "RATE_LIMIT_BURST_PER_KEY" 20 (asInt (atLeast 1))
  let rateLimitStreamsConcurrent ← setting env "RATE_LIMIT_STREAMS_CONCURRENT" 3 (asInt fun _ => true)
  let rateLimitCooldownAfter429 ← setting env "RATE_LIMIT_COOLDOWN_AFTER_429" 60 (asInt (atLeast 0))
  let _ ← setting env "SENTRY_TRACES_SAMPLE_RATE" (Double.nearest (1 / 10)) (asNumeric fun _ => true)
  let _ ← setting env "METRICS_BACKEND" "noop" (asOneOf ["prometheus", "noop"])
  let _ ← setting env "AI_METRICS_BACKEND" "noop" (asOneOf ["sentry", "noop"])
  let semanticCacheEnabled ← setting env "SEMANTIC_CACHE_ENABLED" false toBoolean
  let embeddingDim ← setting env "EMBEDDING_DIM" 1024 (asInt (atLeast 1))
  let embeddingTimeoutMs ← setting env "EMBEDDING_TIMEOUT_MS" 5000 (asInt (atLeast 1))
  let semanticCacheMinSimilarity ← setting env "SEMANTIC_CACHE_MIN_SIMILARITY" (Double.nearest (85 / 100))
    (asNumeric fun n => 0 ≤ n && n ≤ 1)
  let _ ← setting env "SEMANTIC_CACHE_TTL" 3600 (asInt (atLeast 1))
  let semanticCacheK ← setting env "SEMANTIC_CACHE_K" 3 (asInt (atLeast 1))
  let obj : ValidatedEnvironment :=
    { cacheEnabled, cacheBackend, cacheTtl, rateLimitSmartEnabled, rateLimitRpsPerKey, rateLimitBurstPerKey,
      rateLimitStreamsConcurrent, rateLimitCooldownAfter429, semanticCacheEnabled, embeddingDim, embeddingTimeoutMs,
      semanticCacheMinSimilarity, semanticCacheK
      cacheKeyPrefix := (env.get? "CACHE_KEY_PREFIX").getD "aigw:"
      redisHost := (env.get? "REDIS_HOST").getD "localhost"
      redisPort := transformed env "REDIS_PORT" 6379
      redisPassword := (env.get? "REDIS_PASSWORD").getD ""
      redisDb := transformed env "REDIS_DB" 0
      redisKeyPrefix := (env.get? "REDIS_KEY_PREFIX").getD "aigw:"
      embeddingBaseUrl := (env.get? "EMBEDDING_BASE_URL").getD "http://localhost:11435"
      embeddingModel := (env.get? "EMBEDDING_MODEL").getD "qwen3-embedding:0.6b" }
  -- `@ValidateIf`
  if isRedisInfrastructureRequired obj && !(obj.redisPort.any (atLeast 1) && obj.redisDb.any (atLeast 0)) then none
  else some obj

/-! ## `buildAppConfiguration` -/

structure CacheRuntimeConfig where
  enabled : Bool
  backend : CacheBackendType
  ttl : ℚ
  keyPrefix : String
  deriving DecidableEq

structure RedisRuntimeConfig where
  host : String
  port : Option ℚ
  password : String
  db : Option ℚ
  keyPrefix : String
  deriving DecidableEq

structure SemanticCacheRuntimeConfig where
  enabled : Bool
  embeddingBaseUrl : String
  embeddingModel : String
  embeddingDim : ℚ
  embeddingTimeoutMs : ℚ
  minSimilarity : ℚ
  ttl : ℚ
  k : ℚ
  deriving DecidableEq

structure RateLimitRuntimeConfig where
  rps : ℚ
  burst : ℚ
  maxConcurrentStreams : ℚ
  cooldownAfter429 : ℚ
  deriving DecidableEq

/-- `AppConfiguration`, but for what comes from the files. -/
structure RuntimeSettings where
  port : Option ℚ
  nodeEnv : String
  cache : CacheRuntimeConfig
  redis : RedisRuntimeConfig
  semanticCache : SemanticCacheRuntimeConfig
  rateLimitSmartEnabled : Bool
  rateLimit : RateLimitRuntimeConfig
  deriving DecidableEq

/-- `asPort`: `NaN` is on neither side of a bound, and what rounds to an infinity is above both. -/
def asPortNumber : Option ℚ → Except String (Option ℚ)
  | none => .ok none
  | some n => if n < 1 ∨ 65535 < n then .error "Port must be 1-65535" else .ok (some ⌊n⌋)

def asStreams (n : ℚ) : Except String ℚ :=
  if n < 1 then .error "MaxConcurrentStreams must be >=1" else .ok ⌊n⌋

def RedisRuntimeConfig.default : RedisRuntimeConfig := ⟨"localhost", some 6379, "", some 0, "aigw:"⟩

/-- The connection of the validated variables where Redis is required, else the fixed one. -/
def redisOf (env : ValidatedEnvironment) (required : Bool) : Except String RedisRuntimeConfig :=
  if required then do
    let port ← asPortNumber env.redisPort
    .ok ⟨env.redisHost, port, env.redisPassword, env.redisDb, env.redisKeyPrefix⟩
  else .ok .default

/-- The validated bounds leave `asCacheTtlSeconds`, `asRateLimitRps` and `asRateLimitBurst` nothing
to throw at. -/
def buildSettings (rawEnv : ProcessEnv) (env : ValidatedEnvironment) : Except String RuntimeSettings := do
  let cache : CacheRuntimeConfig :=
    ⟨env.cacheEnabled, parseCacheBackend (some env.cacheBackend.text) env.cacheEnabled, env.cacheTtl, env.cacheKeyPrefix⟩
  let required := isRedisRequired
    { cache := some ⟨some cache.enabled, some cache.backend⟩
      rateLimitSmartEnabled := some env.rateLimitSmartEnabled
      semanticCacheEnabled := some env.semanticCacheEnabled }
  let redis ← redisOf env required
  let port ← asPortNumber (JsNumber.intPrefix ((JsString.truthy (rawEnv.get? "PORT")).getD "3000"))
  let maxConcurrentStreams ← asStreams env.rateLimitStreamsConcurrent
  .ok
    { port, cache, redis
      nodeEnv := (JsString.truthy (rawEnv.get? "NODE_ENV")).getD "development"
      semanticCache :=
        { enabled := env.semanticCacheEnabled, embeddingBaseUrl := env.embeddingBaseUrl
          embeddingModel := env.embeddingModel, embeddingDim := env.embeddingDim
          embeddingTimeoutMs := env.embeddingTimeoutMs, minSimilarity := env.semanticCacheMinSimilarity
          ttl := env.cacheTtl, k := env.semanticCacheK }
      rateLimitSmartEnabled := env.rateLimitSmartEnabled
      rateLimit := ⟨env.rateLimitRpsPerKey, env.rateLimitBurstPerKey, maxConcurrentStreams, env.rateLimitCooldownAfter429⟩ }

/-- `isRedisRequiredFromConfig`. -/
def isRedisRequiredFromConfig (config : RuntimeSettings) : Bool :=
  isRedisRequired
    { cache := some ⟨some config.cache.enabled, some config.cache.backend⟩
      rateLimitSmartEnabled := some config.rateLimitSmartEnabled
      semanticCacheEnabled := some config.semanticCache.enabled }

/-! ## The three agree -/

@[simp] theorem parseCacheBackend_text (backend : CacheBackendType) :
    parseCacheBackend (some backend.text) true = backend := by
  cases backend <;> rfl

/-- One of three reasons. -/
theorem isRedisRequired_given (cacheEnabled smartEnabled semanticEnabled : Bool) (backend : CacheBackendType) :
    isRedisRequired ⟨some ⟨some cacheEnabled, some backend⟩, some smartEnabled, some semanticEnabled⟩ =
      ((cacheEnabled && backend = .redis) || smartEnabled || semanticEnabled) := by
  cases cacheEnabled <;> cases backend <;> cases smartEnabled <;> cases semanticEnabled <;> rfl

theorem setting_eq_some {α : Type} {env : ProcessEnv} {name : String} {default : α} {read : String → Option α} {a : α}
    (h : setting env name default read = some a) :
    (env.get? name = none ∧ default = a) ∨ ∃ text, env.get? name = some text ∧ read text = some a := by
  unfold setting at h
  cases hget : env.get? name with
  | none =>
    rw [hget] at h
    exact .inl ⟨rfl, Option.some.inj h⟩
  | some text =>
    rw [hget] at h
    exact .inr ⟨text, rfl, h⟩

/-- A flag is the comparison of its variable. -/
theorem flag_eq {env : ProcessEnv} {name : String} {flag : Bool} (h : setting env name false toBoolean = some flag) :
    isTrue env name = flag := by
  unfold isTrue
  obtain ⟨hget, rfl⟩ | ⟨text, hget, hread⟩ := setting_eq_some h
  · simp [hget]
  · rw [hget, ← Option.some.inj hread]
    simp

/-- A backend that is accepted is read alike by `parseCacheBackend`. -/
theorem backend_eq {env : ProcessEnv} {backend : CacheBackendType}
    (h : setting env "CACHE_BACKEND" .noop backendOf = some backend) :
    parseCacheBackend (env.get? "CACHE_BACKEND") true = backend := by
  obtain ⟨hget, rfl⟩ | ⟨text, hget, hread⟩ := setting_eq_some h
  · rw [hget]
    rfl
  · rw [hget]
    unfold backendOf at hread
    split at hread
    · next htext =>
      obtain rfl := Option.some.inj hread
      rw [htext]
      decide
    · split at hread
      · next htext =>
        obtain rfl := Option.some.inj hread
        rw [htext]
        decide
      · cases hread

theorem isRedisRequiredFromEnv_eq (env : ProcessEnv) :
    isRedisRequiredFromEnv env =
      ((isTrue env "CACHE_ENABLED" &&
          parseCacheBackend (env.get? "CACHE_BACKEND") (isTrue env "CACHE_ENABLED") = .redis) ||
        isTrue env "RATE_LIMIT_SMART_ENABLED" || isTrue env "SEMANTIC_CACHE_ENABLED") :=
  isRedisRequired_given _ _ _ _

/-- The class's own reason for checking the Redis variables is the one of the raw variables. -/
theorem validated_required {env : ProcessEnv} {obj : ValidatedEnvironment} (h : validate env = some obj) :
    isRedisRequiredFromEnv env = isRedisInfrastructureRequired obj ∧
      (isRedisInfrastructureRequired obj = true → ∃ port db : ℚ, obj.redisPort = some port ∧ 1 ≤ port ∧
        obj.redisDb = some db ∧ 0 ≤ db) := by
  -- In the order of `validate`; only four of the variables decide who needs Redis.
  obtain ⟨cacheEnabled, hcache, h⟩ := Option.bind_eq_some_iff.mp h
  obtain ⟨backend, hbackend, h⟩ := Option.bind_eq_some_iff.mp h
  obtain ⟨_, _, h⟩ := Option.bind_eq_some_iff.mp h
  obtain ⟨smart, hsmart, h⟩ := Option.bind_eq_some_iff.mp h
  iterate 7 obtain ⟨_, _, h⟩ := Option.bind_eq_some_iff.mp h
  obtain ⟨semantic, hsemantic, h⟩ := Option.bind_eq_some_iff.mp h
  iterate 5 obtain ⟨_, _, h⟩ := Option.bind_eq_some_iff.mp h
  dsimp only at h
  split at h
  · cases h
  · next hredis =>
    obtain rfl := Option.some.inj h
    constructor
    · rw [isRedisRequiredFromEnv_eq, flag_eq hcache, flag_eq hsmart, flag_eq hsemantic]
      cases cacheEnabled with
      | true => rw [backend_eq hbackend]; rfl
      | false => rfl
    · intro hrequired
      rw [hrequired, Bool.true_and, Bool.not_eq_true', Bool.not_eq_false, Bool.and_eq_true] at hredis
      obtain ⟨hport, hdb⟩ := hredis
      obtain ⟨port, hport, hle⟩ := (Option.any_eq_true _ _).mp hport
      obtain ⟨db, hdb, hnonneg⟩ := (Option.any_eq_true _ _).mp hdb
      exact ⟨port, db, hport, of_decide_eq_true hle, hdb, of_decide_eq_true hnonneg⟩

/-- What is built of validated variables. -/
theorem buildSettings_ok {env : ProcessEnv} {obj : ValidatedEnvironment} {config : RuntimeSettings}
    (h : buildSettings env obj = .ok config) :
    isRedisRequiredFromConfig config = isRedisInfrastructureRequired obj ∧
      (isRedisInfrastructureRequired obj = true → asPortNumber obj.redisPort = .ok config.redis.port) := by
  obtain ⟨redis, hredis, h⟩ := Fallible.bind_eq_ok.mp h
  obtain ⟨port, -, h⟩ := Fallible.bind_eq_ok.mp h
  obtain ⟨streams, -, h⟩ := Fallible.bind_eq_ok.mp h
  obtain rfl := Except.ok.inj h
  have hrequired : isRedisRequired
      ⟨some ⟨some obj.cacheEnabled, some (parseCacheBackend (some obj.cacheBackend.text) obj.cacheEnabled)⟩,
        some obj.rateLimitSmartEnabled, some obj.semanticCacheEnabled⟩ = isRedisInfrastructureRequired obj := by
    rw [isRedisRequired_given, isRedisInfrastructureRequired]
    cases obj.cacheEnabled with
    | true => rw [parseCacheBackend_text]
    | false => rfl
  refine ⟨hrequired, fun hneeded => ?_⟩
  rw [hrequired.trans hneeded, redisOf, if_pos rfl] at hredis
  obtain ⟨redisPort, hport, hredis⟩ := Fallible.bind_eq_ok.mp hredis
  obtain rfl := Except.ok.inj hredis
  exact hport

/-- A port that is given is a whole one. -/
theorem asPortNumber_ok {n : ℚ} {port : Option ℚ} (h : asPortNumber (some n) = .ok port) :
    ∃ p : ℕ, port = some (p : ℚ) ∧ 1 ≤ p ∧ p ≤ 65535 := by
  rw [asPortNumber] at h
  split at h
  · cases h
  · next hbounds =>
    obtain ⟨hlow, hhigh⟩ := not_or.mp hbounds
    obtain rfl := Except.ok.inj h
    have hone : (1 : ℤ) ≤ ⌊n⌋ := Int.le_floor.mpr (by exact_mod_cast not_lt.mp hlow)
    have hmax : ⌊n⌋ ≤ (65535 : ℤ) := by
      have hle : (⌊n⌋ : ℚ) ≤ 65535 := (Int.floor_le n).trans (not_lt.mp hhigh)
      exact_mod_cast hle
    obtain ⟨p, hp⟩ := Int.eq_ofNat_of_zero_le (by omega : 0 ≤ ⌊n⌋)
    refine ⟨p, ?_, by omega, by omega⟩
    rw [hp]
    rfl

/-- In a process that gets through its boot, the choice of the modules, the validator and the
services ask for Redis alike, and there is a port for it when they do. -/
theorem required_agrees {env : ProcessEnv} {obj : ValidatedEnvironment} {config : RuntimeSettings}
    (hvalid : validate env = some obj) (hbuilt : buildSettings env obj = .ok config) :
    isRedisRequiredFromEnv env = isRedisRequiredFromConfig config ∧
      isRedisInfrastructureRequired obj = isRedisRequiredFromConfig config ∧
      (isRedisRequiredFromConfig config = true →
        ∃ port : ℕ, config.redis.port = some (port : ℚ) ∧ 1 ≤ port ∧ port ≤ 65535) := by
  obtain ⟨hraw, hchecked⟩ := validated_required hvalid
  obtain ⟨hconfig, hport⟩ := buildSettings_ok hbuilt
  refine ⟨hraw.trans hconfig.symm, hconfig.symm, fun hneeded => ?_⟩
  rw [hconfig] at hneeded
  obtain ⟨port, -, hgiven, -, -, -⟩ := hchecked hneeded
  have hbuiltPort := hport hneeded
  rw [hgiven] at hbuiltPort
  exact asPortNumber_ok hbuiltPort

/-- Where the cache is kept in Redis, `validate` and `buildSettings` go through. -/
theorem required_agrees_redis :
    ∃ obj config, validate (JsMap.ofEntries [("CACHE_ENABLED", "true"), ("CACHE_BACKEND", "redis")]) = some obj ∧
      buildSettings (JsMap.ofEntries [("CACHE_ENABLED", "true"), ("CACHE_BACKEND", "redis")]) obj = .ok config ∧
      isRedisRequiredFromEnv (JsMap.ofEntries [("CACHE_ENABLED", "true"), ("CACHE_BACKEND", "redis")]) =
        isRedisRequiredFromConfig config :=
  ⟨_, _, rfl, rfl, (required_agrees rfl rfl).1⟩

end AiGateway
