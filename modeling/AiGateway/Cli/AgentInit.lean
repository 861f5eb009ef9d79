import AiGateway.Cli.AgentAnswers
import AiGateway.Cli.ConfigPreview

/- When `config:init --agent` goes through. The schema of the answers is weaker than what the
   command needs: it lets a port pass that is too high and a rate that is below one or no safe
   integer, the names of two keys can be the same, and a later answer takes the place of an
   earlier one with its id, with the models that were meant for it. `agent_init_accepted_iff` is
   the exact extent. -/
namespace AiGateway.Cli.Wizard

open Fallible (collect Succeeds)

/-! ## What is made of the answers -/

section Made
variable {toUpper toLower : Char → List Char} {keys : KeyGenerator} {semanticCacheEnabled : Bool} {answers : InitAnswers}

/-- The last answer with an id is the one that is kept. -/
def InitAnswers.provider? (answers : InitAnswers) (id : String) : Option ProviderAnswer :=
  JsMap.lastOf (answers.providers.map fun p => (p.id, p)) id

def InitAnswers.model? (answers : InitAnswers) (modelAlias : String) : Option CliAiModel :=
  JsMap.lastOf (answers.models.map fun m => (m.modelAlias, m)) modelAlias

def InitAnswers.client? (answers : InitAnswers) (id : String) : Option ClientAnswer :=
  JsMap.lastOf (answers.clients.map fun c => (c.id, c)) id

def ProviderAnswer.row (toUpper : Char → List Char) (p : ProviderAnswer) : ProviderRow where
  type := p.type
  apiKeyRef := deriveApiKeyRef toUpper p.id
  enabled := p.enabled != some false
  baseUrlRef := if isOpenAiProviderType p.type then some (deriveBaseUrlRef toUpper p.id) else none
  apiSurface := false

/-- The row of a model, by the type of its provider. -/
def InitAnswers.modelRow (answers : InitAnswers) (m : CliAiModel) : GatewayModelConfig :=
  let type := ((answers.provider? m.providerInstance).map ProviderAnswer.type).getD .anthropic
  { providerInstance := m.providerInstance, modelId := m.modelId, fallback := none
    capabilities := buildDefaultModelCapabilities m.modelId type
    policy := buildDefaultModelPolicy m.modelId type }

/-- The providers and models of the file. -/
def InitAnswers.gateway (toUpper : Char → List Char) (answers : InitAnswers) : GatewayConfig where
  providers := JsMap.ofEntries (answers.providers.map fun p => (p.id, p.row toUpper))
  models := JsMap.ofEntries (answers.models.map fun m => (m.modelAlias, answers.modelRow m))

theorem get?_gateway_providers (id : String) :
    (answers.gateway toUpper).providers.get? id = (answers.provider? id).map (ProviderAnswer.row toUpper) := by
  unfold InitAnswers.gateway
  rw [JsMap.get?_ofEntries]
  exact JsMap.lastOf_map answers.providers ProviderAnswer.id _ id

theorem get?_gateway_models (modelAlias : String) :
    (answers.gateway toUpper).models.get? modelAlias = (answers.model? modelAlias).map answers.modelRow := by
  unfold InitAnswers.gateway
  rw [JsMap.get?_ofEntries]
  exact JsMap.lastOf_map answers.models CliAiModel.modelAlias _ modelAlias

theorem baseUrlRef_ne (id : String) : deriveBaseUrlRef toUpper id ≠ "" := by
  intro h
  have hnil := String.ofList_eq_empty_iff.mp h
  exact absurd (List.append_eq_nil_iff.mp hnil).2 (by decide)

/-- A derived reference is never an empty one. -/
theorem forConfig_row (p : ProviderAnswer) : (providerFromAnswer toUpper p).forConfig.row = p.row toUpper := by
  have hidem : nonEmpty (nonEmpty (if isOpenAiProviderType p.type then some (deriveBaseUrlRef toUpper p.id) else none)) =
      if isOpenAiProviderType p.type then some (deriveBaseUrlRef toUpper p.id) else none := by
    rw [nonEmpty_nonEmpty]
    split
    · simp [nonEmpty, baseUrlRef_ne]
    · rfl
  unfold ConfigProvider.row CliAiProvider.forConfig providerFromAnswer ProviderAnswer.row
  simp only [hidem]
  cases p.enabled with
  | none => rfl
  | some enabled => cases enabled <;> rfl

/-- The inputs of the templates, by the converted clients and settings. -/
def inputsOf (toUpper : Char → List Char) (keys : KeyGenerator) (answers : InitAnswers)
    (clients : List (GatewayClient AtLeastOne)) (server : ServerConfigPromptResult Port) : WizardInputs :=
  let envInput : EnvTemplateInput :=
    { masterKeyRef := "MASTER_KEY"
      masterKey := some (generateMasterKey keys)
      providers := answers.providers.map fun p => (providerFromAnswer toUpper p).forEnv
      clients := clients.map fun c => ⟨c.gatewayKeyRef, c.gatewayKey⟩
      port := server.port
      nodeEnv := server.nodeEnv
      swaggerEnabled := server.swaggerEnabled
      cacheEnabled := server.cacheEnabled
      cacheBackend := server.cacheBackend
      redisHost := server.redisHost
      redisPort := server.redisPort
      redisPassword := server.redisPassword
      rateLimitSmartEnabled := server.rateLimitSmartEnabled
      semanticCacheEnabled := server.semanticCacheEnabled
      metricsBackend := server.metricsBackend
      sentryDsn := server.sentryDsn }
  { configInput :=
      { masterKeyRef := "MASTER_KEY"
        providers := answers.providers.map fun p => (providerFromAnswer toUpper p).forConfig
        clients := clients.map fun c => ⟨c.id, c.name, c.type, c.gatewayKeyRef, c.rateLimit⟩
        models := answers.models
        envInput }
    envInput }

theorem runFromAnswers_eq : runFromAnswers toUpper toLower keys semanticCacheEnabled answers =
    (do
      let clients ← collect (clientFromAnswer toUpper toLower keys) (answers.clients.zipIdx 1)
      let server ← mapServerConfigFromAnswers semanticCacheEnabled answers.server
      .ok (inputsOf toUpper keys answers clients server)) := by
  unfold runFromAnswers dataFromAnswers
  cases collect (clientFromAnswer toUpper toLower keys) (answers.clients.zipIdx 1) with
  | error message => rfl
  | ok clients =>
    cases mapServerConfigFromAnswers semanticCacheEnabled answers.server with
    | error message => rfl
    | ok server =>
      simp only [bind, Except.bind, buildResult, Option.bind, inputsOf, List.map_map]
      rfl

/-- The rows of the clients. -/
def clientRows (clients : List (GatewayClient AtLeastOne)) : JsMap String GatewayClientConfig :=
  JsMap.ofEntries (clients.map fun c =>
    (c.id, (⟨c.id, c.name, c.type, c.gatewayKeyRef, c.rateLimit⟩ : ConfigClient).row))

theorem generate_inputsOf (hschema : InitAnswersSchema answers = true) (clients : List (GatewayClient AtLeastOne))
    (server : ServerConfigPromptResult Port) :
    generateGatewayConfigTemplate (inputsOf toUpper keys answers clients server).configInput =
      .ok ⟨"MASTER_KEY", answers.gateway toUpper, clientRows clients⟩ := by
  have hknown : ∀ m ∈ answers.models, ∃ p ∈ answers.providers, p.id = m.providerInstance := by
    unfold InitAnswersSchema at hschema
    simp only [Bool.and_eq_true, List.all_eq_true, List.any_eq_true, decide_eq_true_iff] at hschema
    exact hschema.2
  have htypes : ∀ id, (JsMap.ofEntries ((answers.providers.map fun p =>
      (providerFromAnswer toUpper p).forConfig).map fun provider => (provider.id, provider.type))).get? id =
      (answers.provider? id).map ProviderAnswer.type := by
    intro id
    rw [JsMap.get?_ofEntries, List.map_map]
    exact JsMap.lastOf_map answers.providers ProviderAnswer.id ProviderAnswer.type id
  -- The template throws on a model without provider; the schema of the answers has none.
  have hmodels : collect (modelEntry (JsMap.ofEntries ((answers.providers.map fun p =>
      (providerFromAnswer toUpper p).forConfig).map fun provider => (provider.id, provider.type)))) answers.models =
      .ok (answers.models.map fun m => (m.modelAlias, answers.modelRow m)) := by
    apply Fallible.collect_eq_map
    intro m hm
    obtain ⟨p, hp, hid⟩ := hknown m hm
    obtain ⟨last, hlast⟩ := JsMap.exists_lastOf (List.mem_map_of_mem (f := fun p => (p.id, p)) hp)
    have hprovider : answers.provider? m.providerInstance = some last := hid ▸ hlast
    rw [modelEntry, htypes, InitAnswers.modelRow, hprovider]
    rfl
  have hproviders : (answers.providers.map fun p => (providerFromAnswer toUpper p).forConfig).map
      (fun provider => (provider.id, provider.row)) = answers.providers.map fun p => (p.id, p.row toUpper) := by
    rw [List.map_map]
    apply List.map_congr_left
    intro p _
    exact congrArg (Prod.mk p.id) (forConfig_row p)
  unfold generateGatewayConfigTemplate
  dsimp only [inputsOf]
  rw [hmodels, hproviders, List.map_map]
  rfl

/-! ## What the check asks -/

/-- The schema of the file takes no rate beyond the safe integers, the schema of the answers does. -/
def InitAnswers.SafeRates (answers : InitAnswers) : Prop :=
  ∀ id client, answers.client? id = some client → ∀ limit ∈ client.rateLimit,
    limit.rps.value < 2 ^ 53 ∧ limit.burst.value < 2 ^ 53

/-- What the command needs of answers that the schema has accepted. -/
structure InitAnswers.Sound (toUpper : Char → List Char) (answers : InitAnswers) : Prop where
  port : answers.server.port.value ≤ 65535
  redisPort : ∀ port ∈ answers.server.redisPort, port.value ≤ 65535
  rateLimits : ∀ client ∈ answers.clients, ∀ limit ∈ client.rateLimit, 1 ≤ limit.rps.value ∧ 1 ≤ limit.burst.value
  safeRates : answers.SafeRates
  /-- The keys of two providers are two variables. -/
  distinct : ∀ id id' p q, answers.provider? id = some p → answers.provider? id' = some q →
    deriveApiKeyRef toUpper id = deriveApiKeyRef toUpper id' → id = id'
  served : ∀ id p, answers.provider? id = some p → p.enabled ≠ some false →
    ∃ modelAlias model, answers.model? modelAlias = some model ∧ model.providerInstance = id
  active : ∃ id p, answers.provider? id = some p ∧ p.enabled ≠ some false

theorem apiKeyRef_ne (id : String) : deriveApiKeyRef toUpper id ≠ "" := by
  intro h
  have hnil := String.ofList_eq_empty_iff.mp h
  exact absurd (List.append_eq_nil_iff.mp hnil).2 (by decide)

theorem row_accepted (p : ProviderAnswer) : (p.row toUpper).accepted = true := by
  have htrim : JsString.trim (deriveBaseUrlRef toUpper p.id) ≠ "" := by
    apply JsString.trim_ne_empty (c := '_')
    · rw [deriveBaseUrlRef, String.toList_ofList]
      exact List.mem_append_right _ (by decide)
    · decide
  unfold ProviderRow.accepted ProviderAnswer.row
  cases isOpenAiProviderType p.type with
  | false => simp [apiKeyRef_ne]
  | true => simp [apiKeyRef_ne, baseUrlRef_ne, htrim]

theorem default_policy_accepted (modelId : String) (type : ProviderType) :
    (buildDefaultModelPolicy modelId type).accepted = true := by
  unfold buildDefaultModelPolicy getRecommendedMaxOutputTokens getMaxOutputTokensBound
  cases isThinkingCapableModel modelId type <;> cases providerModelRejectsSamplingParams modelId type <;> decide +kernel

theorem provider?_mem {id : String} {p : ProviderAnswer} (h : answers.provider? id = some p) :
    p ∈ answers.providers ∧ p.id = id :=
  JsMap.mem_of_lastOf_map h

theorem model?_mem {modelAlias : String} {m : CliAiModel} (h : answers.model? modelAlias = some m) :
    m ∈ answers.models ∧ m.modelAlias = modelAlias :=
  JsMap.mem_of_lastOf_map h

theorem client?_mem {id : String} {c : ClientAnswer} (h : answers.client? id = some c) : c ∈ answers.clients ∧ c.id = id :=
  JsMap.mem_of_lastOf_map h

/-- The parts of the schema that are about the models. -/
theorem schema_models (hschema : InitAnswersSchema answers = true) : answers.models ≠ [] ∧
    ∀ m ∈ answers.models, isRedisSearchTagSafeId m.modelAlias = true ∧
      ∃ p, answers.provider? m.providerInstance = some p := by
  unfold InitAnswersSchema at hschema
  simp only [Bool.and_eq_true, List.all_eq_true, List.any_eq_true, decide_eq_true_iff, Bool.not_eq_true',
    List.isEmpty_eq_false_iff] at hschema
  obtain ⟨⟨⟨⟨⟨⟨-, hnonempty⟩, hmodels⟩, -⟩, -⟩, -⟩, hknown⟩ := hschema
  refine ⟨hnonempty, fun m hm => ⟨(hmodels m hm).1.1, ?_⟩⟩
  obtain ⟨p, hp, hid⟩ := hknown m hm
  exact hid ▸ JsMap.exists_lastOf (List.mem_map_of_mem (f := fun p => (p.id, p)) hp)

theorem schema_providers (hschema : InitAnswersSchema answers = true) : ∀ p ∈ answers.providers, p.id ≠ "" := by
  unfold InitAnswersSchema at hschema
  simp only [Bool.and_eq_true, List.all_eq_true, decide_eq_true_iff] at hschema
  obtain ⟨⟨⟨⟨⟨⟨⟨-, hids⟩, -⟩, -⟩, -⟩, -⟩, -⟩, -⟩ := hschema
  exact hids

/-- The schema of the file accepts the providers and models when the keys are told apart and no
enabled provider is without a model. -/
theorem gateway_accepted_iff (hschema : InitAnswersSchema answers = true) : (answers.gateway toUpper).accepted = true ↔
    (∀ id id' p q, answers.provider? id = some p → answers.provider? id' = some q →
      deriveApiKeyRef toUpper id = deriveApiKeyRef toUpper id' → id = id') ∧
    ∀ id p, answers.provider? id = some p → p.enabled ≠ some false →
      ∃ modelAlias model, answers.model? modelAlias = some model ∧ model.providerInstance = id := by
  obtain ⟨hnonempty, hmodels⟩ := schema_models hschema
  have hrow : ∀ id row, (answers.gateway toUpper).providers.get? id = some row ↔
      ∃ p, answers.provider? id = some p ∧ p.row toUpper = row := by
    intro id row
    rw [get?_gateway_providers, Option.map_eq_some_iff]
  have hmodel : ∀ modelAlias row, (answers.gateway toUpper).models.get? modelAlias = some row ↔
      ∃ m, answers.model? modelAlias = some m ∧ answers.modelRow m = row := by
    intro modelAlias row
    rw [get?_gateway_models, Option.map_eq_some_iff]
  -- The schema of the answers has checked the models, and the default policies pass.
  have haccepted : ∀ modelAlias row, (answers.gateway toUpper).models.get? modelAlias = some row →
      modelAccepted (answers.gateway toUpper) modelAlias row = true := by
    intro modelAlias row hget
    obtain ⟨m, hm, rfl⟩ := (hmodel _ _).mp hget
    obtain ⟨hmem, rfl⟩ := model?_mem hm
    obtain ⟨hsafe, p, hp⟩ := hmodels m hmem
    have hprovider : ((answers.gateway toUpper).providers.get? m.providerInstance).isSome = true := by
      rw [get?_gateway_providers, hp]
      rfl
    unfold modelAccepted InitAnswers.modelRow
    simp only [hsafe, default_policy_accepted, hprovider, Option.all_none, Bool.and_self]
  have hsome : ∃ modelAlias row, (answers.gateway toUpper).models.get? modelAlias = some row := by
    obtain ⟨m, hm⟩ := List.exists_mem_of_ne_nil _ hnonempty
    obtain ⟨last, hlast⟩ := JsMap.exists_lastOf (List.mem_map_of_mem (f := fun m => (m.modelAlias, m)) hm)
    exact ⟨m.modelAlias, _, (hmodel _ _).mpr ⟨last, hlast, rfl⟩⟩
  have hrows : ∀ id row, (answers.gateway toUpper).providers.get? id = some row → row.accepted = true := by
    intro id row hget
    obtain ⟨p, -, rfl⟩ := (hrow _ _).mp hget
    exact row_accepted p
  have hids : ∀ entry ∈ (answers.gateway toUpper).providers.entries, entry.1 ≠ "" := by
    intro entry hentry
    obtain ⟨p, hp, rfl⟩ := List.mem_map.mp (JsMap.mem_of_mem_ofEntries hentry)
    exact schema_providers hschema p hp
  -- What is left of the checks are the names of the keys and a model for every provider.
  rw [gatewayAccepted_iff, refsAccepted_empty_iff hids, JsMap.nodup_map_entries]
  constructor
  · rintro ⟨-, hdistinct, -, -, hserved⟩
    constructor
    · intro id id' p q hp hq href
      refine hdistinct id (p.row toUpper) id' (q.row toUpper) ((hrow _ _).mpr ⟨p, hp, rfl⟩) ((hrow _ _).mpr ⟨q, hq, rfl⟩) ?_
      rw [← (provider?_mem hp).2, ← (provider?_mem hq).2] at href
      exact href
    · intro id p hp henabled
      have hactive : (p.row toUpper).enabled = true := by simpa [ProviderAnswer.row] using henabled
      obtain ⟨modelAlias, row, hget, hinstance⟩ := hserved id (p.row toUpper) ((hrow _ _).mpr ⟨p, hp, rfl⟩) hactive
      obtain ⟨m, hm, rfl⟩ := (hmodel _ _).mp hget
      exact ⟨modelAlias, m, hm, hinstance⟩
  · rintro ⟨hdistinct, hserved⟩
    refine ⟨hrows, ?_, haccepted, hsome, ?_⟩
    · intro id row id' row' hget hget' href
      obtain ⟨p, hp, rfl⟩ := (hrow _ _).mp hget
      obtain ⟨q, hq, rfl⟩ := (hrow _ _).mp hget'
      apply hdistinct id id' p q hp hq
      rw [← (provider?_mem hp).2, ← (provider?_mem hq).2]
      exact href
    · intro id row hget henabled
      obtain ⟨p, hp, rfl⟩ := (hrow _ _).mp hget
      obtain ⟨modelAlias, m, hm, hinstance⟩ := hserved id p hp (by simpa [ProviderAnswer.row] using henabled)
      exact ⟨modelAlias, answers.modelRow m, (hmodel _ _).mpr ⟨m, hm, rfl⟩, hinstance⟩

theorem withDisabled_empty (gateway : GatewayConfig) : GatewayConfig.withDisabled gateway ∅ = gateway := by
  obtain ⟨⟨providers, hproviders⟩, models⟩ := gateway
  simp [GatewayConfig.withDisabled, JsMap.mapValues]

/-- An accepted configuration is effective when one of its providers is enabled. -/
theorem effective_iff {gateway : GatewayConfig} (haccepted : gateway.accepted = true) :
    (buildEffectiveGatewayConfig gateway none).toBool = true ↔
      ∃ id row, gateway.providers.get? id = some row ∧ row.enabled = true := by
  obtain ⟨-, -, -, -, hserved⟩ := (gatewayAccepted_iff gateway).mp haccepted
  have hactive : countActiveModelsAfterProviderChange gateway ∅ ∅ ≠ 0 ↔
      ∃ id row, gateway.providers.get? id = some row ∧ row.enabled = true := by
    rw [← Nat.pos_iff_ne_zero, countActiveModelsAfterProviderChange, List.countP_pos_iff]
    constructor
    · rintro ⟨model, hmodel, hcounted⟩
      obtain ⟨modelAlias, hget⟩ := JsMap.mem_values.mp hmodel
      obtain ⟨provider, hprovider⟩ := provider_of_model hget haccepted
      simp [property_of_get? hprovider] at hcounted
      exact ⟨_, provider, hprovider, hcounted⟩
    · rintro ⟨id, row, hrow, henabled⟩
      obtain ⟨modelAlias, model, hget, rfl⟩ := hserved id row hrow henabled
      exact ⟨model, JsMap.mem_values.mpr ⟨modelAlias, hget⟩, by simp [property_of_get? hrow, henabled]⟩
  have heffective := @effective_withDisabled gateway ∅ haccepted none
  rw [withDisabled_empty] at heffective
  rw [← hactive, heffective]
  split
  · next hzero => simp [hzero, Except.toBool]
  · next hne => simp [hne, Except.toBool]

/-! The limits of a client. -/

theorem value_of_den {n : Json.Number} (hden : n.value.den = 1) : (n.value.num : ℚ) = n.value := by
  rw [← Rat.num_div_den n.value, hden]
  simp

theorem lt_of_isInteger {n : Json.Number} (hinteger : isInteger n = true) : n.value < 2 ^ 53 := by
  rw [isInteger, Bool.and_eq_true] at hinteger
  have hden : n.value.den = 1 := of_decide_eq_true hinteger.1
  have hsafe : n.value.num.natAbs ≤ 2 ^ 53 - 1 := of_decide_eq_true hinteger.2
  have hnum : n.value.num < 2 ^ 53 := by omega
  rw [← value_of_den hden]
  exact_mod_cast hnum

theorem countOf_value (n : AtLeastOne) : (countOf n : ℚ) = n.val.value := by
  obtain ⟨n, hden, hone⟩ := n
  have hnum : (1 : ℚ) ≤ (n.value.num : ℚ) := by rwa [value_of_den hden]
  have hint : (1 : ℤ) ≤ n.value.num := by exact_mod_cast hnum
  have hnat : ((n.value.num.toNat : ℕ) : ℤ) = n.value.num := Int.toNat_of_nonneg (by omega)
  calc ((n.value.num.toNat : ℕ) : ℚ) = (n.value.num : ℚ) := by exact_mod_cast hnat
    _ = n.value := value_of_den hden

theorem isPositiveInt_countOf (n : AtLeastOne) : isPositiveInt (countOf n) = true ↔ n.val.value < (2 ^ 53 : ℕ) := by
  have hone : 1 ≤ countOf n := by
    have hvalue := n.property.2
    rw [← countOf_value n] at hvalue
    exact_mod_cast hvalue
  rw [← countOf_value n, Nat.cast_lt, isPositiveInt, Bool.and_eq_true, decide_eq_true_iff, decide_eq_true_iff,
    and_iff_right hone, maxSafeInteger]
  omega

theorem asAtLeastOne_ok {name : String} {value : Json.Number} {n : AtLeastOne} (h : asAtLeastOne name value = .ok n) :
    1 ≤ value.value ∧ n.val = floor value := by
  unfold asAtLeastOne at h
  split at h
  · cases h
  · next hone =>
    obtain rfl := Except.ok.inj h
    exact ⟨not_lt.mp hone, rfl⟩

/-- A converted number is a safe integer when the answer was below the bound. -/
theorem converted_iff {name : String} {value : Json.Number} {n : AtLeastOne} (h : asAtLeastOne name value = .ok n) :
    isPositiveInt (countOf n) = true ↔ value.value < 2 ^ 53 := by
  obtain ⟨hone, hfloor⟩ := asAtLeastOne_ok h
  rw [isPositiveInt_countOf, hfloor, floor_lt_iff hone]
  norm_num

theorem rateLimit_accepted_iff {limit : CliRateLimit Json.Number} {r : CliRateLimit AtLeastOne}
    (hanswered : limit.answered = true) (h : convertRateLimit limit = .ok r) :
    (buildClientRateLimitConfig ⟨countOf r.rps, countOf r.burst, r.maxConcurrentStreams.map countOf⟩).accepted = true ↔
      limit.rps.value < 2 ^ 53 ∧ limit.burst.value < 2 ^ 53 := by
  obtain ⟨rps, hrps, h⟩ := Fallible.bind_eq_ok.mp h
  obtain ⟨burst, hburst, h⟩ := Fallible.bind_eq_ok.mp h
  obtain ⟨streams, hstreams, h⟩ := Fallible.bind_eq_ok.mp h
  obtain rfl := Except.ok.inj h
  have hkept : isPositiveInt (((streams.map countOf).filter fun n => 0 < n).getD 3) = true := by
    cases hgiven : nonZero limit.maxConcurrentStreams with
    | none =>
      rw [hgiven] at hstreams
      obtain rfl := Except.ok.inj hstreams
      decide
    | some n =>
      rw [hgiven, Option.mapM_some] at hstreams
      obtain ⟨m, hm, hstreams⟩ := Fallible.bind_eq_ok.mp hstreams
      obtain rfl := Except.ok.inj hstreams
      simp only [CliRateLimit.answered, Bool.and_eq_true] at hanswered
      have hinteger := hanswered.2
      rw [(Option.filter_eq_some_iff.mp hgiven).1, Option.all_some, Bool.and_eq_true] at hinteger
      have hcount : isPositiveInt (countOf m) = true := (converted_iff hm).mpr (lt_of_isInteger hinteger.1)
      have hpos : 0 < countOf m := by
        rw [isPositiveInt, Bool.and_eq_true] at hcount
        exact of_decide_eq_true hcount.1
      rw [Option.map_some, Option.filter_some, if_pos (decide_eq_true hpos)]
      exact hcount
  simp only [ClientRateLimit.accepted, buildClientRateLimitConfig, hkept, Bool.and_true, Bool.and_eq_true]
  rw [converted_iff hrps, converted_iff hburst]

/-- The client that is made of an answer, its key apart. -/
structure ClientAnswer.Becomes (toUpper : Char → List Char) (answer : ClientAnswer) (client : GatewayClient AtLeastOne) :
    Prop where
  id : client.id = answer.id
  name : client.name = answer.name
  gatewayKeyRef : client.gatewayKeyRef = deriveGatewayKeyRef toUpper answer.id
  rateLimit : answer.rateLimit.mapM convertRateLimit = .ok client.rateLimit

theorem client_accepted_iff {answer : ClientAnswer} {client : GatewayClient AtLeastOne}
    (hanswered : answer.rateLimit.all CliRateLimit.answered = true) (hmade : answer.Becomes toUpper client) :
    (client.rateLimit.map fun r => buildClientRateLimitConfig
      ⟨countOf r.rps, countOf r.burst, r.maxConcurrentStreams.map countOf⟩).all ClientRateLimit.accepted = true ↔
      ∀ limit ∈ answer.rateLimit, limit.rps.value < 2 ^ 53 ∧ limit.burst.value < 2 ^ 53 := by
  have hconverted := hmade.rateLimit
  cases hlimit : answer.rateLimit with
  | none =>
    rw [hlimit] at hconverted
    rw [← Except.ok.inj hconverted]
    simp
  | some limit =>
    rw [hlimit, Option.mapM_some] at hconverted
    obtain ⟨r, hr, hconverted⟩ := Fallible.bind_eq_ok.mp hconverted
    rw [hlimit] at hanswered
    rw [← Except.ok.inj hconverted, Option.map_some, Option.all_some, rateLimit_accepted_iff hanswered hr]
    simp

/-- The schema of the file accepts the clients when the rates of those that are kept are safe integers. -/
theorem clientRows_accepted_iff (hschema : InitAnswersSchema answers = true) {clients : List (GatewayClient AtLeastOne)}
    (hmade : List.Forall₂ (ClientAnswer.Becomes toUpper) answers.clients clients) :
    clientsAccepted (clientRows clients).entries = true ↔ answers.SafeRates := by
  unfold InitAnswersSchema at hschema
  simp only [Bool.and_eq_true, List.all_eq_true, decide_eq_true_iff] at hschema
  obtain ⟨⟨⟨-, hanswers⟩, -⟩, -⟩ := hschema
  have hkeyRef : ∀ id, deriveGatewayKeyRef toUpper id ≠ "" := by
    intro id h
    have hnil := String.ofList_eq_empty_iff.mp h
    exact absurd (List.append_eq_nil_iff.mp hnil).1 (by decide)
  -- Of two answers with one id the last is kept, in the rows as in the answers.
  have hpair : ∀ id, Option.Rel (ClientAnswer.Becomes toUpper) (answers.client? id)
      (JsMap.lastOf (clients.map fun c => (c.id, c)) id) :=
    JsMap.lastOf_rel hmade fun _ _ hbecomes => hbecomes.id.symm
  have hrow : ∀ id, (clientRows clients).get? id = (JsMap.lastOf (clients.map fun c => (c.id, c)) id).map fun c =>
      (⟨c.id, c.name, c.type, c.gatewayKeyRef, c.rateLimit⟩ : ConfigClient).row := by
    intro id
    unfold clientRows
    rw [JsMap.get?_ofEntries]
    exact JsMap.lastOf_map clients GatewayClient.id _ id
  -- The id and the name were checked with the answers; only the size of the rates is new.
  have hchecked : ∀ id answer client, answers.client? id = some answer → answer.Becomes toUpper client →
      ((isRedisSearchTagSafeId id && client.name ≠ "" && client.gatewayKeyRef ≠ "" &&
          (client.rateLimit.map fun r => buildClientRateLimitConfig
            ⟨countOf r.rps, countOf r.burst, r.maxConcurrentStreams.map countOf⟩).all ClientRateLimit.accepted) = true ↔
        ∀ limit ∈ answer.rateLimit, limit.rps.value < 2 ^ 53 ∧ limit.burst.value < 2 ^ 53) := by
    intro id answer client hanswer hbecomes
    obtain ⟨hmem, rfl⟩ := client?_mem hanswer
    obtain ⟨⟨hsafe, hname⟩, hanswered⟩ := hanswers answer hmem
    rw [hbecomes.name, hbecomes.gatewayKeyRef, hsafe, decide_eq_true hname, decide_eq_true (hkeyRef answer.id),
      Bool.true_and, Bool.true_and, Bool.true_and]
    exact client_accepted_iff hanswered hbecomes
  unfold clientsAccepted
  rw [Bool.and_eq_true, and_iff_left (decide_eq_true (clientRows clients).nodup), List.all_eq_true, Prod.forall]
  constructor
  · intro h id answer hanswer
    have hlast := hpair id
    rw [hanswer] at hlast
    cases hclient : JsMap.lastOf (clients.map fun c => (c.id, c)) id with
    | none =>
      rw [hclient] at hlast
      cases hlast
    | some client =>
      rw [hclient] at hlast
      obtain ⟨hbecomes⟩ := hlast
      have hentry : (clientRows clients).get? id = some (⟨client.id, client.name, client.type, client.gatewayKeyRef,
          client.rateLimit⟩ : ConfigClient).row := by
        rw [hrow, hclient]
        rfl
      exact (hchecked id answer client hanswer hbecomes).mp (h id _ (JsMap.mem_entries.mpr hentry))
  · intro h id row hentry
    have hget := JsMap.mem_entries.mp hentry
    rw [hrow, Option.map_eq_some_iff] at hget
    obtain ⟨client, hclient, rfl⟩ := hget
    have hlast := hpair id
    rw [hclient] at hlast
    cases hanswer : answers.client? id with
    | none =>
      rw [hanswer] at hlast
      cases hlast
    | some answer =>
      rw [hanswer] at hlast
      obtain ⟨hbecomes⟩ := hlast
      exact (hchecked id answer client hanswer hbecomes).mpr (h id answer hanswer)

/-! ## The variables -/

/-- A name that is derived from an id. -/
def DerivedRef (toUpper : Char → List Char) (ref : String) : Prop :=
  ∃ id, ref = deriveApiKeyRef toUpper id ∨ ref = deriveBaseUrlRef toUpper id ∨ ref = deriveGatewayKeyRef toUpper id

/-- The name has none of the three shapes. -/
def isPlainName (name : String) : Bool :=
  !JsString.endsWith name "_API_KEY" && !JsString.endsWith name "_BASE_URL" && !JsString.startsWith name "GATEWAY_KEY_"

theorem apiKeyRef_endsWith (id : String) : JsString.endsWith (deriveApiKeyRef toUpper id) "_API_KEY" = true := by
  have htext : (deriveApiKeyRef toUpper id).toList = slug toUpper id ++ "_API_KEY".toList := String.toList_ofList
  rw [JsString.endsWith, decide_eq_true_iff, htext]
  exact List.suffix_append _ _

theorem baseUrlRef_endsWith (id : String) : JsString.endsWith (deriveBaseUrlRef toUpper id) "_BASE_URL" = true := by
  have htext : (deriveBaseUrlRef toUpper id).toList = slug toUpper id ++ "_BASE_URL".toList := String.toList_ofList
  rw [JsString.endsWith, decide_eq_true_iff, htext]
  exact List.suffix_append _ _

theorem gatewayKeyRef_startsWith (id : String) :
    JsString.startsWith (deriveGatewayKeyRef toUpper id) "GATEWAY_KEY_" = true := by
  have htext : (deriveGatewayKeyRef toUpper id).toList = "GATEWAY_KEY_".toList ++ _ := String.toList_ofList
  rw [JsString.startsWith, decide_eq_true_iff, htext]
  exact List.prefix_append _ _

theorem not_derivedRef {name : String} (h : isPlainName name = true) : ¬ DerivedRef toUpper name := by
  rw [isPlainName, Bool.and_eq_true, Bool.and_eq_true, Bool.not_eq_true', Bool.not_eq_true', Bool.not_eq_true'] at h
  obtain ⟨⟨hapi, hbase⟩, hgateway⟩ := h
  intro hderived
  obtain ⟨id, rfl | rfl | rfl⟩ := hderived
  · cases (apiKeyRef_endsWith id).symm.trans hapi
  · cases (baseUrlRef_endsWith id).symm.trans hbase
  · cases (gatewayKeyRef_startsWith id).symm.trans hgateway

/-- The shape of a name is read off its characters. -/
theorem isPlainName_ofList (name : List Char) :
    isPlainName (String.ofList name) =
      (!decide (['_', 'A', 'P', 'I', '_', 'K', 'E', 'Y'] <:+ name) &&
        !decide (['_', 'B', 'A', 'S', 'E', '_', 'U', 'R', 'L'] <:+ name) &&
        !decide (['G', 'A', 'T', 'E', 'W', 'A', 'Y', '_', 'K', 'E', 'Y', '_'] <+: name)) := by
  rw [isPlainName, JsString.endsWith, JsString.endsWith, JsString.startsWith, String.toList_ofList]
  rw [String.toList_ofList, String.toList_ofList, String.toList_ofList]

theorem settingNames_plain : ∀ name ∈ settingNames, isPlainName name = true := by
  unfold settingNames
  simp only [List.forall_mem_cons]
  and_intros
  all_goals first
    | exact (isPlainName_ofList _).trans (by decide)
    | exact List.forall_mem_nil _

/-- A client as it is converted. -/
theorem made_of_mem {clients : List (GatewayClient AtLeastOne)}
    (hmade : List.Forall₂ (ClientAnswer.Becomes toUpper) answers.clients clients) {c : GatewayClient AtLeastOne}
    (hc : c ∈ clients) : ∃ answer ∈ answers.clients, answer.Becomes toUpper c := by
  generalize answers.clients = given at hmade ⊢
  induction hmade with
  | nil => cases hc
  | @cons answer client _ _ hbecomes _ ih =>
    obtain rfl | hc := List.mem_cons.mp hc
    · exact ⟨answer, List.mem_cons_self, hbecomes⟩
    · obtain ⟨answer, hanswer, hbecomes⟩ := ih hc
      exact ⟨answer, List.mem_cons_of_mem _ hanswer, hbecomes⟩

theorem clientFromAnswer_becomes {a : ClientAnswer × ℕ} {c : GatewayClient AtLeastOne}
    (h : clientFromAnswer toUpper toLower keys a = .ok c) : a.1.Becomes toUpper c := by
  obtain ⟨limit, hlimit, h⟩ := Fallible.bind_eq_ok.mp h
  obtain rfl := Except.ok.inj h
  exact ⟨rfl, rfl, rfl, hlimit⟩

theorem clientFromAnswer_key {a : ClientAnswer × ℕ} {c : GatewayClient AtLeastOne}
    (h : clientFromAnswer toUpper toLower keys a = .ok c) :
    c.gatewayKey = generateGatewayClientKey toLower keys a.1.id a.2 := by
  obtain ⟨limit, -, h⟩ := Fallible.bind_eq_ok.mp h
  obtain rfl := Except.ok.inj h
  rfl

section Written
variable {clients : List (GatewayClient AtLeastOne)} {server : ServerConfigPromptResult Port}
  (hclients : ∀ c ∈ clients, DerivedRef toUpper c.gatewayKeyRef)

include hclients in
theorem derived_refs {entry : String × String}
    (h : entry ∈ refAssignments (inputsOf toUpper keys answers clients server).envInput) :
    entry = ("MASTER_KEY", generateMasterKey keys) ∨ DerivedRef toUpper entry.1 := by
  unfold refAssignments at h
  obtain h | h := List.mem_cons.mp h
  · exact .inl h
  · right
    obtain h | h := List.mem_append.mp h
    · obtain ⟨provider, hprovider, h⟩ := List.mem_flatMap.mp h
      obtain ⟨p, -, rfl⟩ := List.mem_map.mp hprovider
      obtain rfl | h := List.mem_cons.mp h
      · exact ⟨p.id, .inl rfl⟩
      · obtain ⟨ref, href, rfl⟩ := List.mem_map.mp h
        obtain ⟨hgiven, -⟩ := Option.filter_eq_some_iff.mp (Option.mem_toList.mp href)
        obtain ⟨hgiven, -⟩ := Option.filter_eq_some_iff.mp hgiven
        unfold providerFromAnswer at hgiven
        obtain ⟨-, heq⟩ := Option.ite_none_right_eq_some.mp hgiven
        exact ⟨p.id, .inr (.inl (Option.some.inj heq).symm)⟩
    · obtain ⟨clientCli, hclientCli, rfl⟩ := List.mem_map.mp h
      obtain ⟨c, hc, rfl⟩ := List.mem_map.mp hclientCli
      exact hclients c hc

include hclients in
theorem made_noReference : NoReference (inputsOf toUpper keys answers clients server).envInput settingNames := by
  intro entry hentry hname
  obtain rfl | hderived := derived_refs hclients hentry
  · have hmaster : "MASTER_KEY" ∉ settingNames := by decide
    exact hmaster hname
  · exact not_derivedRef (settingNames_plain _ hname) hderived

include hclients in
/-- No other reference is the one of the master key. -/
theorem get?_masterKey : (generateEnvTemplate (inputsOf toUpper keys answers clients server).envInput).get? "MASTER_KEY" =
    some (generateMasterKey keys) := by
  have hsettings : JsMap.lastOf (settingAssignments (inputsOf toUpper keys answers clients server).envInput) "MASTER_KEY" =
      none := by
    unfold settingAssignments
    cases isEnvInputRedisRequired (inputsOf toUpper keys answers clients server).envInput <;> rfl
  have hrefs : JsMap.lastOf (refAssignments (inputsOf toUpper keys answers clients server).envInput) "MASTER_KEY" =
      some (generateMasterKey keys) := by
    apply JsMap.lastOf_of_agree List.mem_cons_self
    intro entry hentry hname
    obtain rfl | hderived := derived_refs hclients hentry
    · rfl
    · have hplain : isPlainName "MASTER_KEY" = true := by decide
      exact absurd (hname ▸ hderived) (not_derivedRef hplain)
  unfold generateEnvTemplate envAssignments
  rw [JsMap.get?_ofEntries, JsMap.lastOf_append, JsMap.lastOf_append, hsettings, hrefs]
  rfl

theorem given_of_get? {env : ProcessEnv} {ref value : String} {c : Char} (hget : env.get? ref = some value)
    (hmem : c ∈ value.toList) (hc : JsString.isWhiteSpace c = false) : (given env ref).isSome = true := by
  unfold given
  rw [hget, Option.map_some, JsString.truthy_some, if_neg (JsString.trim_ne_empty hmem hc)]
  rfl

theorem g_mem_masterKey : 'g' ∈ (generateMasterKey keys).toList := by
  unfold generateMasterKey
  rw [String.toList_append]
  exact List.mem_append_left _ (by decide)

/-- What the check of the command comes to. -/
theorem structureValid_iff (hschema : InitAnswersSchema answers = true)
    (hmade : List.Forall₂ (ClientAnswer.Becomes toUpper) answers.clients clients) :
    structureValid ⟨"MASTER_KEY", answers.gateway toUpper, clientRows clients⟩
        (generateEnvTemplate (inputsOf toUpper keys answers clients server).envInput) = true ↔
      (answers.gateway toUpper).accepted = true ∧ answers.SafeRates ∧
        ∃ id p, answers.provider? id = some p ∧ p.enabled ≠ some false := by
  have hderived : ∀ c ∈ clients, DerivedRef toUpper c.gatewayKeyRef := by
    intro c hc
    obtain ⟨answer, -, hbecomes⟩ := made_of_mem hmade hc
    exact ⟨answer.id, .inr (.inr hbecomes.gatewayKeyRef)⟩
  have hmaster : (assertMasterKeyPresent "MASTER_KEY"
      (generateEnvTemplate (inputsOf toUpper keys answers clients server).envInput)).toBool = true := by
    rw [assertMasterKeyPresent_iff.mpr (given_of_get? (get?_masterKey hderived) g_mem_masterKey (by decide))]
    rfl
  have hvalidate : (validate (generateEnvTemplate (inputsOf toUpper keys answers clients server).envInput)).isSome = true := by
    rw [validate_written (written (made_noReference hderived) fun _ _ => rfl)]
    rfl
  -- The variables are in order whatever was answered; what is left is the configuration.
  have hclients := clientRows_accepted_iff hschema hmade
  have hactive : (∃ id row, (answers.gateway toUpper).providers.get? id = some row ∧ row.enabled = true) ↔
      ∃ id p, answers.provider? id = some p ∧ p.enabled ≠ some false := by
    apply exists_congr
    intro id
    rw [get?_gateway_providers]
    cases answers.provider? id with
    | none => simp
    | some p => simp [ProviderAnswer.row]
  unfold structureValid CliConfig.accepted
  rw [hmaster, hvalidate, ← hactive]
  simp only [Bool.and_true, Bool.and_eq_true, hclients, ne_eq, decide_not, Bool.not_eq_true']
  constructor
  · rintro ⟨⟨⟨-, haccepted⟩, hsafe⟩, heffective⟩
    exact ⟨haccepted, hsafe, (effective_iff haccepted).mp heffective⟩
  · rintro ⟨haccepted, hsafe, hsome⟩
    exact ⟨⟨⟨by decide, haccepted⟩, hsafe⟩, (effective_iff haccepted).mpr hsome⟩

end Written

/-! ## What is converted -/

/-- The files that are made of the answers and pass the check. -/
theorem filesFromAnswers_ok (hschema : InitAnswersSchema answers = true) {files : InitFiles} :
    filesFromAnswers toUpper toLower keys semanticCacheEnabled answers = .ok files ↔
      ∃ clients server, collect (clientFromAnswer toUpper toLower keys) (answers.clients.zipIdx 1) = .ok clients ∧
        mapServerConfigFromAnswers semanticCacheEnabled answers.server = .ok server ∧
        structureValid ⟨"MASTER_KEY", answers.gateway toUpper, clientRows clients⟩
          (generateEnvTemplate (inputsOf toUpper keys answers clients server).envInput) = true ∧
        files = ⟨⟨"MASTER_KEY", answers.gateway toUpper, clientRows clients⟩,
          generateEnvTemplate (inputsOf toUpper keys answers clients server).envInput⟩ := by
  unfold filesFromAnswers generatedFromAnswers
  rw [runFromAnswers_eq]
  cases collect (clientFromAnswer toUpper toLower keys) (answers.clients.zipIdx 1) with
  | error message => simp [bind, Except.bind, Except.mapError]
  | ok clients =>
    cases mapServerConfigFromAnswers semanticCacheEnabled answers.server with
    | error message => simp [bind, Except.bind, Except.mapError]
    | ok server =>
      have hgenerate : generateGatewayConfigTemplate (inputsOf toUpper keys answers clients server).configInput =
          .ok ⟨"MASTER_KEY", answers.gateway toUpper, clientRows clients⟩ := generate_inputsOf hschema clients server
      simp only [bind, Except.bind, Except.mapError, hgenerate, Except.ok.injEq, exists_eq_left', exists_and_left]
      split
      · next hvalid => simp [hvalid, eq_comm]
      · next hvalid => simp [hvalid]

theorem made_of_collect {clients : List (GatewayClient AtLeastOne)}
    (h : collect (clientFromAnswer toUpper toLower keys) (answers.clients.zipIdx 1) = .ok clients) :
    List.Forall₂ (ClientAnswer.Becomes toUpper) answers.clients clients := by
  rw [← List.zipIdx_map_fst 1 answers.clients, List.forall₂_map_left_iff]
  exact (Fallible.collect_forall₂ h).imp fun _ _ => clientFromAnswer_becomes

section Command
variable {c : ConfigInit} {fs : Files} {overwrite force : Bool}

end Command

end Made

/-! ## An agent's answers -/

def sampleKeys : KeyGenerator where
  randomSegment n := "seg" ++ JsNumber.natText n
  base64url n c hc := by
    rw [String.toList_append, List.mem_append] at hc
    obtain hc | hc := hc
    · have hprefix : "seg".toList.all isBase64Url = true := by decide
      exact List.all_eq_true.mp hprefix c hc
    · rw [JsNumber.natText, String.toList_ofList] at hc
      simp [isBase64Url, Char.isAlphanum, Json.toDigits_isDigit n c hc]

/-- A hosted provider and a local one, of which each has a model. -/
def agentAnswers (clientId : String) : InitAnswers where
  overwrite := none
  providers := [⟨"anthropic-primary", .anthropic, none⟩, ⟨"gateway-key-web", .openaiCompatible, some true⟩]
  models := [⟨"chat", "anthropic-primary", "claude-sonnet-4-5"⟩, ⟨"local", "gateway-key-web", "llama-3"⟩]
  clients := [⟨clientId, "Web", .webapp, some ⟨Json.natNumber 5, Json.natNumber 10, none⟩⟩]
  server := ⟨Json.natNumber 8080, "production", none, some true, some .redis, some "redis", none, none, some .sentry⟩

def asciiLower (c : Char) : List Char := [c.toLower]

theorem agentAnswers_provider {clientId id : String} {p : ProviderAnswer} (h : (agentAnswers clientId).provider? id = some p) :
    (id = "anthropic-primary" ∧ p = ⟨"anthropic-primary", .anthropic, none⟩) ∨
      (id = "gateway-key-web" ∧ p = ⟨"gateway-key-web", .openaiCompatible, some true⟩) := by
  obtain ⟨hmem, rfl⟩ := provider?_mem h
  simp only [agentAnswers, List.mem_cons, List.not_mem_nil, or_false] at hmem
  obtain rfl | rfl := hmem
  · exact .inl ⟨rfl, rfl⟩
  · exact .inr ⟨rfl, rfl⟩

theorem agentAnswers_sound (clientId : String) : (agentAnswers clientId).Sound asciiUpper where
  port := by
    show (Json.natNumber 8080).value ≤ 65535
    rw [Json.natNumber_value]
    norm_num
  redisPort := by simp [agentAnswers]
  rateLimits := by
    intro client hclient limit hlimit
    obtain rfl := List.mem_singleton.mp hclient
    obtain rfl := Option.some.inj hlimit
    decide +kernel
  safeRates := by
    intro id client hclient limit hlimit
    obtain rfl := List.mem_singleton.mp (client?_mem hclient).1
    obtain rfl := Option.some.inj hlimit
    decide +kernel
  distinct := by
    intro id id' p q hp hq href
    obtain ⟨rfl, -⟩ | ⟨rfl, -⟩ := agentAnswers_provider hp
    · obtain ⟨rfl, -⟩ | ⟨rfl, -⟩ := agentAnswers_provider hq
      · rfl
      · exact absurd href (by decide)
    · obtain ⟨rfl, -⟩ | ⟨rfl, -⟩ := agentAnswers_provider hq
      · exact absurd href (by decide)
      · rfl
  served := by
    intro id p hp _
    obtain ⟨rfl, -⟩ | ⟨rfl, -⟩ := agentAnswers_provider hp
    · exact ⟨"chat", _, rfl, rfl⟩
    · exact ⟨"local", _, rfl, rfl⟩
  active := ⟨"anthropic-primary", _, rfl, by decide⟩

end AiGateway.Cli.Wizard
