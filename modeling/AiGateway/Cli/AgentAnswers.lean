import AiGateway.Cli.Templates

/- `config:init --agent`: no question is asked, the answers are a file that `InitAnswersSchema`
   accepts, and `runFromAnswers` makes the inputs of the templates of it. What is written is
   checked without the secrets (`allowMissingProviderSecrets`), and rolled back when the check
   fails. `runAgentInit` is the command in a directory: `ConfigInit` has its guards and its
   writes, and what is written comes of the answers. -/
namespace AiGateway.Cli.Wizard

open Fallible (collect)

/-! ## The answers -/

structure ProviderAnswer where
  id : String
  type : ProviderType
  enabled : Option Bool
  deriving DecidableEq

structure ClientAnswer where
  id : String
  name : String
  type : GatewayClientType
  rateLimit : Option (CliRateLimit Json.Number)
  deriving DecidableEq

structure ServerAnswers where
  port : Json.Number
  nodeEnv : String
  swaggerEnabled : Option Bool
  cacheEnabled : Option Bool
  cacheBackend : Option CacheBackend
  redisHost : Option String
  redisPort : Option Json.Number
  rateLimitSmartEnabled : Option Bool
  metricsBackend : Option MetricsBackend
  deriving DecidableEq

structure InitAnswers where
  overwrite : Option Bool
  providers : List ProviderAnswer
  models : List CliAiModel
  clients : List ClientAnswer
  server : ServerAnswers
  deriving DecidableEq

def isPositive (n : Json.Number) : Bool := 0 < n.value

def CliRateLimit.answered (limit : CliRateLimit Json.Number) : Bool :=
  isPositive limit.rps && isPositive limit.burst && limit.maxConcurrentStreams.all fun n => isInteger n && isPositive n

/-- `InitAnswersSchema`, of an object with the fields of the type. -/
def InitAnswersSchema (answers : InitAnswers) : Bool :=
  !answers.providers.isEmpty && (answers.providers.all fun p => p.id ≠ "") &&
    !answers.models.isEmpty &&
    (answers.models.all fun m => isRedisSearchTagSafeId m.modelAlias && m.providerInstance ≠ "" && m.modelId ≠ "") &&
    !answers.clients.isEmpty &&
    (answers.clients.all fun c => isRedisSearchTagSafeId c.id && c.name ≠ "" && c.rateLimit.all CliRateLimit.answered) &&
    (isInteger answers.server.port && isPositive answers.server.port && answers.server.nodeEnv ≠ "" &&
      answers.server.redisPort.all fun port => isInteger port && isPositive port) &&
    answers.models.all fun m => answers.providers.any fun p => p.id = m.providerInstance

/-! ## `runFromAnswers` -/

def isBase64Url (c : Char) : Bool := c.isAlphanum || c = '-' || c = '_'

/-- `KeyGeneratorService`: what its calls of `randomSegment` return, one after another. -/
structure KeyGenerator where
  randomSegment : ℕ → String
  base64url : ∀ n, ∀ c ∈ (randomSegment n).toList, isBase64Url c = true

section Answers
variable (toUpper toLower : Char → List Char) (keys : KeyGenerator)

def generateMasterKey : String := "gw_mk_" ++ keys.randomSegment 0

/-- One match of `/[^a-z0-9]/g` for each UTF-16 unit. -/
def keySlugChar (c : Char) : List Char :=
  if ('a' ≤ c ∧ c ≤ 'z') ∨ ('0' ≤ c ∧ c ≤ '9') then [c] else (JsString.charUnits c).map fun _ => '_'

def keySlug (clientId : String) : List Char := ((JsString.trim clientId).toList.flatMap toLower).flatMap keySlugChar

def generateGatewayClientKey (clientId : String) (call : ℕ) : String :=
  "gw_" ++ String.ofList (keySlug toLower clientId) ++ "_" ++ keys.randomSegment call

def providerFromAnswer (p : ProviderAnswer) : CliAiProvider BaseUrl where
  id := p.id
  type := p.type
  apiKeyRef := deriveApiKeyRef toUpper p.id
  apiKey := ""
  enabled := some (p.enabled != some false)
  baseUrlRef := if isOpenAiProviderType p.type then some (deriveBaseUrlRef toUpper p.id) else none
  baseUrl := none
  apiSurface := none

/-- A client, with the number of the call that makes its key. -/
def clientFromAnswer (c : ClientAnswer × ℕ) : Except String (GatewayClient AtLeastOne) := do
  let rateLimit ← c.1.rateLimit.mapM convertRateLimit
  .ok
    { id := c.1.id, name := c.1.name, type := c.1.type, gatewayKeyRef := deriveGatewayKeyRef toUpper c.1.id
      gatewayKey := generateGatewayClientKey toLower keys c.1.id c.2, rateLimit }

/-- `mapServerConfigFromAnswers`; `semanticCacheEnabled` is read from the environment of the command. -/
def mapServerConfigFromAnswers (semanticCacheEnabled : Bool) (server : ServerAnswers) :
    Except String (ServerConfigPromptResult Port) := do
  let port ← asPort server.port
  let redisPort ← server.redisPort.mapM asPort
  .ok
    { port, redisPort, nodeEnv := server.nodeEnv, swaggerEnabled := server.swaggerEnabled
      cacheEnabled := server.cacheEnabled, cacheBackend := server.cacheBackend, redisHost := server.redisHost
      redisPassword := some "", rateLimitSmartEnabled := server.rateLimitSmartEnabled
      semanticCacheEnabled := some semanticCacheEnabled, metricsBackend := server.metricsBackend, sentryDsn := some "" }

/-- `state.data`. -/
def dataFromAnswers (semanticCacheEnabled : Bool) (answers : InitAnswers) : Except String Data := do
  let clients ← collect (clientFromAnswer toUpper toLower keys) (answers.clients.zipIdx 1)
  let serverConfig ← mapServerConfigFromAnswers semanticCacheEnabled answers.server
  .ok
    { masterKey := some (generateMasterKey keys), providers := some (answers.providers.map (providerFromAnswer toUpper))
      models := some answers.models, clients := some clients, serverConfig := some serverConfig }

/-- Every answer is there for `buildResult`. -/
def runFromAnswers (semanticCacheEnabled : Bool) (answers : InitAnswers) : Except String WizardInputs := do
  let data ← dataFromAnswers toUpper toLower keys semanticCacheEnabled answers
  match buildResult data with
  | none => .error "TypeError"
  | some inputs => .ok inputs

/-! ## The command -/

/-- What the command writes: `gateway.config.yaml` and the variables of `.env`. -/
structure InitFiles where
  config : CliConfig
  vars : ProcessEnv

/-- `CliGatewayValidatorService.validate` with `allowMissingProviderSecrets` succeeds. -/
def structureValid (config : CliConfig) (env : ProcessEnv) : Bool :=
  config.accepted && (assertMasterKeyPresent config.masterKeyRef env).toBool &&
    (buildEffectiveGatewayConfig config.gateway none).toBool && (validate env).isSome

inductive InitError where
  | thrown (message : String)
  /-- The report has the errors of the check, and the files are rolled back. -/
  | rolledBack
  deriving DecidableEq, Repr

/-- The inputs of the templates, and the files that these make of them. -/
def generatedFromAnswers (semanticCacheEnabled : Bool) (answers : InitAnswers) :
    Except String (WizardInputs × InitFiles) := do
  let inputs ← runFromAnswers toUpper toLower keys semanticCacheEnabled answers
  let config ← generateGatewayConfigTemplate inputs.configInput
  .ok (inputs, ⟨config, generateEnvTemplate inputs.envInput⟩)

/-- The files that the check lets pass. -/
def filesFromAnswers (semanticCacheEnabled : Bool) (answers : InitAnswers) : Except InitError InitFiles := do
  let (_, files) ← (generatedFromAnswers toUpper toLower keys semanticCacheEnabled answers).mapError .thrown
  if structureValid files.config files.vars then .ok files else .error .rolledBack

/-- `runAgentInit` on answers that were accepted. The texts are what is rendered of the inputs, and
the check reads back what was written. -/
def runAgentInit (c : ConfigInit) (render : WizardInputs → InitTexts) (semanticCacheEnabled force : Bool)
    (answers : InitAnswers) (fs : Files) : InitEnd :=
  match c.startAgent (answers.overwrite = some true) force fs with
  | .error fs => .stopped fs
  | .ok fs =>
    match generatedFromAnswers toUpper toLower keys semanticCacheEnabled answers with
    | .error _ => .stopped fs   -- thrown before the first write
    | .ok (inputs, files) =>
      ConfigInit.writeAgent
        { c with texts := render inputs, verdicts := fun _ => structureValid files.config files.vars } fs

end Answers

end AiGateway.Cli.Wizard
