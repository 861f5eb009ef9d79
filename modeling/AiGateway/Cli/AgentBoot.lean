import AiGateway.Cli.AgentInit

/- What is left for a human after `config:init --agent`: the report lists the pending secrets,
   and once they are filled in the gateway boots.

   A provider's key is asked for unless a client's key was written under its name, the name of
   two ids that the slugs make equal (`agent_pending_iff`). For a key this goes unnoticed, and
   the provider is sent the client's; a base URL that is a key stops the boot, and nothing that is
   reported would have told (`agent_init_boots_iff`). -/
namespace AiGateway.Cli.Wizard

open Fallible (collect Succeeds)

/-- The options of `runAgentInit`. -/
def agentOptions : PendingOptions := ⟨some true, some true, some true⟩

/-- The boot: the checks on the configuration and the secrets, and the settings. -/
def Boots (url : UrlParser) (config : CliConfig) (env : ProcessEnv) : Prop :=
  validateParsedGatewayConfig url config.masterKeyRef config.gateway env = .ok () ∧
    (buildEffectiveGatewayConfig config.gateway none).toBool = true ∧
      ∃ obj settings, validate env = some obj ∧ buildSettings env obj = .ok settings

/-- The human fills in what is pending, and leaves the rest. -/
structure FilledIn (url : UrlParser) (pending : List PendingSecretsItem) (before after : ProcessEnv) : Prop where
  kept : ∀ name, (∀ item ∈ pending, item.envRef ≠ name) → after.get? name = before.get? name
  given : ∀ item ∈ pending, (given after item.envRef).isSome = true
  url : ∀ item ∈ pending, item.reason = .providerBaseUrl → ∀ raw, AiGateway.given after item.envRef = some raw →
    IsHttpUrl url raw

/-! ## What is reported -/

section Pending
variable {config : CliConfig} {env : EnvText} {options : PendingOptions} {item : PendingSecretsItem}

theorem mem_pendingIfBlank {candidate : PendingSecretsItem} :
    item ∈ pendingIfBlank env candidate ↔ item = candidate ∧ isBlank (getVar env candidate.envRef) = true := by
  unfold pendingIfBlank
  split
  · next h => simp [h]
  · next h => simp [h]

/-- What an item can be about. -/
inductive Concerns (config : CliConfig) (env : EnvText) : PendingSecretsItem → Prop where
  | masterKey : Concerns config env { envRef := config.masterKeyRef, reason := .masterKey }
  | apiKey (id : String) (row : ProviderRow) (hrow : config.gateway.providers.get? id = some row)
      (henabled : row.enabled = true) (hrequired : isApiKeyRequiredForProviderType row.type = true) :
      Concerns config env { envRef := row.apiKeyRef, reason := .providerApiKey, providerInstance := some id }
  | baseUrl (id : String) (row : ProviderRow) (ref : String) (hrow : config.gateway.providers.get? id = some row)
      (henabled : row.enabled = true) (htype : isOpenAiProviderType row.type = true) (href : row.baseUrlRef = some ref)
      (hne : ref ≠ "") :
      Concerns config env { envRef := ref, reason := .providerBaseUrl, providerInstance := some id }
  | client (id : String) (client : GatewayClientConfig) (hclient : config.clients.get? id = some client) :
      Concerns config env { envRef := client.gatewayKeyRef, reason := .clientGatewayKey, clientId := some id }
  | sentry (henabled : sentryEnabled env = true) : Concerns config env { envRef := "SENTRY_DSN", reason := .sentryDsn }

theorem mem_pendingOfProvider {id : String} {row : ProviderRow} (hrow : config.gateway.providers.get? id = some row)
    (h : item ∈ pendingOfProvider env id row) : isBlank (getVar env item.envRef) = true ∧ Concerns config env item := by
  unfold pendingOfProvider at h
  split at h
  · cases h
  · next henabled =>
    rw [Bool.not_eq_true', Bool.not_eq_false] at henabled
    obtain h | h := List.mem_append.mp h
    · split at h
      · next hrequired =>
        obtain ⟨rfl, hblank⟩ := mem_pendingIfBlank.mp h
        exact ⟨hblank, .apiKey id row hrow henabled hrequired⟩
      · cases h
    · split at h
      · next htype =>
        obtain ⟨ref, href, h⟩ := List.mem_flatMap.mp h
        obtain ⟨href, hne⟩ := JsString.truthy_eq_some (Option.mem_toList.mp href)
        obtain ⟨rfl, hblank⟩ := mem_pendingIfBlank.mp h
        exact ⟨hblank, .baseUrl id row ref hrow henabled htype href hne⟩
      · cases h

/-- The report lists what is blank of all these. -/
theorem mem_collectPendingSecrets_iff : item ∈ collectPendingSecrets config env agentOptions ↔
    isBlank (getVar env item.envRef) = true ∧ Concerns config env item := by
  have hmaster : agentOptions.includeMasterKey ≠ some false := by decide
  have hclients : agentOptions.includeClientKeys = some true := rfl
  have hoperator : agentOptions.includeOperatorEnv ≠ some false := by decide
  unfold collectPendingSecrets
  simp only [List.mem_append, if_pos hmaster, hclients, decide_eq_true hoperator, Bool.true_and, if_true]
  constructor
  -- Four lists are put together: master key, providers, clients, operator.
  · rintro (((h | h) | h) | h)
    · obtain ⟨rfl, hblank⟩ := mem_pendingIfBlank.mp h
      exact ⟨hblank, .masterKey⟩
    · obtain ⟨entry, hentry, h⟩ := List.mem_flatMap.mp h
      exact mem_pendingOfProvider (JsMap.mem_entries.mp hentry) h
    · obtain ⟨entry, hentry, h⟩ := List.mem_flatMap.mp h
      obtain ⟨rfl, hblank⟩ := mem_pendingIfBlank.mp h
      exact ⟨hblank, .client entry.1 entry.2 (JsMap.mem_entries.mp hentry)⟩
    · split at h
      · next hsentry =>
        obtain ⟨rfl, hblank⟩ := mem_pendingIfBlank.mp h
        exact ⟨hblank, .sentry hsentry⟩
      · cases h
  · rintro ⟨hblank, hconcerns⟩
    cases hconcerns with
    | masterKey => exact .inl (.inl (.inl (mem_pendingIfBlank.mpr ⟨rfl, hblank⟩)))
    | apiKey id row hrow henabled hrequired =>
      refine .inl (.inl (.inr (List.mem_flatMap.mpr ⟨(id, row), JsMap.mem_entries.mpr hrow, ?_⟩)))
      simp only [pendingOfProvider, henabled, hrequired, Bool.not_true, Bool.false_eq_true, if_false, if_true]
      exact List.mem_append_left _ (mem_pendingIfBlank.mpr ⟨rfl, hblank⟩)
    | baseUrl id row ref hrow henabled htype href hne =>
      refine .inl (.inl (.inr (List.mem_flatMap.mpr ⟨(id, row), JsMap.mem_entries.mpr hrow, ?_⟩)))
      simp only [pendingOfProvider, henabled, htype, href, JsString.truthy_some, if_neg hne, Bool.not_true,
        Bool.false_eq_true, if_false, if_true, Option.toList_some, List.flatMap_singleton]
      exact List.mem_append_right _ (mem_pendingIfBlank.mpr ⟨rfl, hblank⟩)
    | client id client hclient =>
      exact .inl (.inr (List.mem_flatMap.mpr ⟨(id, client), JsMap.mem_entries.mpr hclient,
        mem_pendingIfBlank.mpr ⟨rfl, hblank⟩⟩))
    | sentry henabled =>
      right
      rw [if_pos henabled]
      exact mem_pendingIfBlank.mpr ⟨rfl, hblank⟩

end Pending

/-! ## What is written -/

section Written
variable {toUpper toLower : Char → List Char} {keys : KeyGenerator} {answers : InitAnswers}
  {clients : List (GatewayClient AtLeastOne)} {server : ServerConfigPromptResult Port} {ref : String}

theorem headAssignments_plain (input : EnvTemplateInput) : ∀ entry ∈ headAssignments input, isPlainName entry.1 = true := by
  unfold headAssignments
  simp only [List.forall_mem_cons]
  and_intros
  all_goals first
    | exact (isPlainName_ofList _).trans (by decide)
    | exact List.forall_mem_nil _

theorem settingAssignments_plain (input : EnvTemplateInput) :
    ∀ entry ∈ settingAssignments input, isPlainName entry.1 = true := by
  have hredis : ∀ entry ∈ redisAssignments input, isPlainName entry.1 = true := by
    unfold redisAssignments
    simp only [List.forall_mem_cons]
    and_intros
    all_goals first
      | exact (isPlainName_ofList _).trans (by decide)
      | exact List.forall_mem_nil _
  have hrequired : ∀ entry ∈ (if isEnvInputRedisRequired input then redisAssignments input else []),
      isPlainName entry.1 = true := by
    split
    · exact hredis
    · exact List.forall_mem_nil _
  unfold settingAssignments
  simp only [List.forall_mem_append, List.forall_mem_cons]
  and_intros
  all_goals first
    | exact hrequired
    | exact (isPlainName_ofList _).trans (by decide)
    | exact List.forall_mem_nil _

/-- A derived name is not one of a setting. -/
theorem get?_derived (input : EnvTemplateInput) (href : DerivedRef toUpper ref) :
    (generateEnvTemplate input).get? ref = JsMap.lastOf (refAssignments input) ref := by
  have hhead : JsMap.lastOf (headAssignments input) ref = none := by
    rw [JsMap.lastOf_eq_none]
    rintro entry hentry rfl
    exact not_derivedRef (headAssignments_plain input entry hentry) href
  have hsettings : JsMap.lastOf (settingAssignments input) ref = none := by
    rw [JsMap.lastOf_eq_none]
    rintro entry hentry rfl
    exact not_derivedRef (settingAssignments_plain input entry hentry) href
  unfold generateEnvTemplate envAssignments
  rw [JsMap.get?_ofEntries, JsMap.lastOf_append, JsMap.lastOf_append, hhead, hsettings, Option.none_or, Option.or_none]

/-- Every client's key is written last under its name. -/
theorem get?_clientKey (hrefs : ∀ c ∈ clients, DerivedRef toUpper c.gatewayKeyRef)
    (h : ∃ c ∈ clients, c.gatewayKeyRef = ref) :
    ∃ c ∈ clients, c.gatewayKeyRef = ref ∧
      (generateEnvTemplate (inputsOf toUpper keys answers clients server).envInput).get? ref = some c.gatewayKey := by
  obtain ⟨c, hc, rfl⟩ := h
  have hmem : (c.gatewayKeyRef, c.gatewayKey) ∈ clients.map fun c => (c.gatewayKeyRef, c.gatewayKey) :=
    List.mem_map_of_mem hc
  obtain ⟨key, hkey⟩ := JsMap.exists_lastOf hmem
  obtain ⟨last, hlast, heq⟩ := List.mem_map.mp (JsMap.mem_of_lastOf hkey)
  obtain ⟨href, rfl⟩ := Prod.mk.inj heq
  refine ⟨last, hlast, href, ?_⟩
  rw [get?_derived _ (hrefs c hc), refAssignments, ← List.cons_append, JsMap.lastOf_append]
  simp only [inputsOf, List.map_map]
  show (JsMap.lastOf (clients.map fun c => (c.gatewayKeyRef, c.gatewayKey)) c.gatewayKeyRef).or _ = _
  rw [hkey]
  rfl

/-- What is written under a provider's name before the clients is blank. -/
theorem provider_assignments {entry : String × String}
    (h : entry ∈ (inputsOf toUpper keys answers clients server).envInput.providers.flatMap ProviderCli.assignments) :
    entry.2 = "" := by
  obtain ⟨provider, hprovider, h⟩ := List.mem_flatMap.mp h
  obtain ⟨p, -, rfl⟩ := List.mem_map.mp hprovider
  obtain rfl | h := List.mem_cons.mp h
  · rfl
  · obtain ⟨ref, -, rfl⟩ := List.mem_map.mp h
    have hnone : (providerFromAnswer toUpper p).forEnv.baseUrl = none := ite_self none
    show ((providerFromAnswer toUpper p).forEnv.baseUrl.map Subtype.val).getD "" = ""
    rw [hnone]
    rfl

theorem get?_providerRef (href : DerivedRef toUpper ref) (hno : ∀ c ∈ clients, c.gatewayKeyRef ≠ ref)
    (h : ∃ p ∈ answers.providers, ref = deriveApiKeyRef toUpper p.id ∨
      (isOpenAiProviderType p.type = true ∧ ref = deriveBaseUrlRef toUpper p.id)) :
    (generateEnvTemplate (inputsOf toUpper keys answers clients server).envInput).get? ref = some "" := by
  have hclients : JsMap.lastOf (clients.map fun c => (c.gatewayKeyRef, c.gatewayKey)) ref = none := by
    rw [JsMap.lastOf_eq_none, List.forall_mem_map]
    exact hno
  have hmem : (ref, "") ∈ (inputsOf toUpper keys answers clients server).envInput.providers.flatMap ProviderCli.assignments := by
    obtain ⟨p, hp, hname⟩ := h
    refine List.mem_flatMap.mpr ⟨(providerFromAnswer toUpper p).forEnv, List.mem_map_of_mem hp, ?_⟩
    obtain rfl | ⟨htype, rfl⟩ := hname
    · exact List.mem_cons_self
    · apply List.mem_cons_of_mem
      simp [providerFromAnswer, CliAiProvider.forEnv, htype, nonEmpty, baseUrlRef_ne]
  have hproviders : JsMap.lastOf ((inputsOf toUpper keys answers clients server).envInput.providers.flatMap
      ProviderCli.assignments) ref = some "" :=
    JsMap.lastOf_of_agree hmem fun entry hentry _ => provider_assignments hentry
  rw [get?_derived _ href, refAssignments, ← List.cons_append, JsMap.lastOf_append, ← List.singleton_append,
    JsMap.lastOf_append, hproviders]
  simp only [inputsOf, List.map_map]
  show (JsMap.lastOf (clients.map fun c => (c.gatewayKeyRef, c.gatewayKey)) ref).or _ = _
  rw [hclients]
  rfl

end Written

/-! ## A run that succeeds -/

/-- What it has made of the clients and of the server's answers, and what it has checked. -/
structure AgentRun (toUpper toLower : Char → List Char) (keys : KeyGenerator) (answers : InitAnswers) (files : InitFiles)
    (clients : List (GatewayClient AtLeastOne)) (server : ServerConfigPromptResult Port) : Prop where
  fromAnswer : ∀ c ∈ clients, ∃ a ∈ answers.clients, c.gatewayKeyRef = deriveGatewayKeyRef toUpper a.id ∧
    ∃ call, c.gatewayKey = generateGatewayClientKey toLower keys a.id call
  ofAnswer : ∀ a ∈ answers.clients, ∃ c ∈ clients, c.gatewayKeyRef = deriveGatewayKeyRef toUpper a.id
  metricsBackend : server.metricsBackend = answers.server.metricsBackend
  sentryDsn : server.sentryDsn = some ""
  made : files = ⟨⟨"MASTER_KEY", answers.gateway toUpper, clientRows clients⟩,
    generateEnvTemplate (inputsOf toUpper keys answers clients server).envInput⟩
  accepted : files.config.accepted = true
  effective : (buildEffectiveGatewayConfig files.config.gateway none).toBool = true

section Report
variable {toUpper toLower : Char → List Char} {keys : KeyGenerator} {semanticCacheEnabled : Bool} {answers : InitAnswers}
  {files : InitFiles}

theorem exists_agentRun (hschema : InitAnswersSchema answers = true)
    (hrun : filesFromAnswers toUpper toLower keys semanticCacheEnabled answers = .ok files) :
    ∃ clients server, AgentRun toUpper toLower keys answers files clients server := by
  obtain ⟨clients, server, hclients, hserver, hvalid, rfl⟩ := (filesFromAnswers_ok hschema).mp hrun
  obtain ⟨hfrom, hto⟩ := Fallible.mem_collect hclients
  obtain ⟨port, -, hserver⟩ := Fallible.bind_eq_ok.mp hserver
  obtain ⟨redisPort, -, hserver⟩ := Fallible.bind_eq_ok.mp hserver
  obtain rfl := Except.ok.inj hserver
  unfold structureValid at hvalid
  rw [Bool.and_eq_true, Bool.and_eq_true, Bool.and_eq_true] at hvalid
  obtain ⟨⟨⟨haccepted, -⟩, heffective⟩, -⟩ := hvalid
  refine ⟨clients, _, ?_, ?_, rfl, rfl, rfl, haccepted, heffective⟩
  · intro c hc
    obtain ⟨a, ha, hmade⟩ := hfrom c hc
    have href := (clientFromAnswer_becomes hmade).gatewayKeyRef
    have hmem : a.1 ∈ (answers.clients.zipIdx 1).map Prod.fst := List.mem_map_of_mem ha
    rw [List.zipIdx_map_fst] at hmem
    exact ⟨a.1, hmem, href, a.2, clientFromAnswer_key hmade⟩
  · intro answer hanswer
    rw [← List.zipIdx_map_fst 1 answers.clients] at hanswer
    obtain ⟨a, ha, rfl⟩ := List.mem_map.mp hanswer
    obtain ⟨c, hc, hmade⟩ := hto a ha
    exact ⟨c, hc, (clientFromAnswer_becomes hmade).gatewayKeyRef⟩

variable {clients : List (GatewayClient AtLeastOne)} {server : ServerConfigPromptResult Port}
  (run : AgentRun toUpper toLower keys answers files clients server) {ref : String}

include run

theorem AgentRun.derived : ∀ c ∈ clients, DerivedRef toUpper c.gatewayKeyRef := by
  intro c hc
  obtain ⟨a, -, href, -⟩ := run.fromAnswer c hc
  exact ⟨a.id, .inr (.inr href)⟩

/-- A name is a client's when an answer has it. -/
theorem AgentRun.clientRef_iff : (∃ c ∈ clients, c.gatewayKeyRef = ref) ↔
    ∃ a ∈ answers.clients, deriveGatewayKeyRef toUpper a.id = ref := by
  constructor
  · rintro ⟨c, hc, rfl⟩
    obtain ⟨a, ha, href, -⟩ := run.fromAnswer c hc
    exact ⟨a, ha, href.symm⟩
  · rintro ⟨a, ha, rfl⟩
    obtain ⟨c, hc, href⟩ := run.ofAnswer a ha
    exact ⟨c, hc, href⟩

/-- The variable of a client is a key. -/
theorem AgentRun.clientKey (h : ∃ a ∈ answers.clients, deriveGatewayKeyRef toUpper a.id = ref) :
    ∃ id call, files.vars.get? ref = some (generateGatewayClientKey toLower keys id call) := by
  have hget : ∃ c ∈ clients, c.gatewayKeyRef = ref ∧ files.vars.get? ref = some c.gatewayKey := by
    rw [run.made]
    exact get?_clientKey run.derived (run.clientRef_iff.mpr h)
  obtain ⟨c, hc, -, hget⟩ := hget
  obtain ⟨a, -, -, call, hkey⟩ := run.fromAnswer c hc
  exact ⟨a.id, call, hkey ▸ hget⟩

/-- The variable of a provider is blank where no client has its name. -/
theorem AgentRun.providerSecret {p : ProviderAnswer} (hp : p ∈ answers.providers)
    (href : ref = deriveApiKeyRef toUpper p.id ∨ (isOpenAiProviderType p.type = true ∧ ref = deriveBaseUrlRef toUpper p.id))
    (hno : ¬ ∃ a ∈ answers.clients, deriveGatewayKeyRef toUpper a.id = ref) : files.vars.get? ref = some "" := by
  rw [← run.clientRef_iff] at hno
  have hderived : DerivedRef toUpper ref := by
    obtain rfl | ⟨-, rfl⟩ := href
    · exact ⟨p.id, .inl rfl⟩
    · exact ⟨p.id, .inr (.inl rfl)⟩
  rw [run.made]
  exact get?_providerRef hderived (fun c hc heq => hno ⟨c, hc, heq⟩) ⟨p, hp, href⟩

/-- The variable of a setting. -/
theorem AgentRun.setting {name : String} (hplain : isPlainName name = true) (hne : name ≠ "MASTER_KEY") :
    files.vars.get? name =
      JsMap.lastOf (headAssignments (inputsOf toUpper keys answers clients server).envInput ++
        settingAssignments (inputsOf toUpper keys answers clients server).envInput) name := by
  have hrefs : JsMap.lastOf (refAssignments (inputsOf toUpper keys answers clients server).envInput) name = none := by
    rw [JsMap.lastOf_eq_none]
    rintro entry hentry rfl
    obtain rfl | hderived := derived_refs run.derived hentry
    · exact hne rfl
    · exact not_derivedRef hplain hderived
  rw [run.made]
  show (generateEnvTemplate _).get? name = _
  unfold generateEnvTemplate envAssignments
  rw [JsMap.get?_ofEntries, JsMap.lastOf_append, JsMap.lastOf_append, JsMap.lastOf_append, hrefs, Option.none_or]

omit run

end Report

/-! ## What is pending -/

theorem isBlank_of_get? {env : PlainEnv} {ref value : String} (h : env.vars.get? ref = some value) :
    isBlank (getVar env.text ref) = true ↔ JsString.trim value = "" := by
  have href : '=' ∉ ref.toList := env.no_eq (ref, value) (JsMap.mem_entries.mpr h)
  rw [getVar_eq_get? href, h]
  simp [isBlank]

theorem keySlug_chars {toLower : Char → List Char} {id : String} {c : Char} (h : c ∈ keySlug toLower id) : c ≠ ':' := by
  obtain ⟨d, -, hd⟩ := List.mem_flatMap.mp h
  unfold keySlugChar at hd
  split at hd
  · next hrange =>
    obtain rfl := List.mem_singleton.mp hd
    rintro rfl
    exact absurd hrange (by decide)
  · obtain ⟨-, -, rfl⟩ := List.mem_map.mp hd
    decide

section ClientKey
variable {toLower : Char → List Char} {keys : KeyGenerator} {id : String} {call : ℕ}

theorem clientKey_text : (generateGatewayClientKey toLower keys id call).toList =
    "gw_".toList ++ keySlug toLower id ++ "_".toList ++ (keys.randomSegment call).toList := by
  simp only [generateGatewayClientKey, String.toList_append, String.toList_ofList]

/-- A key is not blank, -/
theorem clientKey_not_blank : JsString.trim (generateGatewayClientKey toLower keys id call) ≠ "" := by
  have hmem : 'g' ∈ (generateGatewayClientKey toLower keys id call).toList := by
    rw [clientKey_text]
    exact List.mem_append_left _ (List.mem_append_left _ (List.mem_append_left _ (by decide)))
  exact JsString.trim_ne_empty hmem (by decide)

/-- nor is it a URL: it has no colon. -/
theorem clientKey_no_colon : ':' ∉ (generateGatewayClientKey toLower keys id call).toList := by
  rw [clientKey_text]
  simp only [List.mem_append, not_or]
  refine ⟨⟨⟨by decide, fun h => keySlug_chars h rfl⟩, by decide⟩, fun h => ?_⟩
  exact absurd (keys.base64url call ':' h) (by decide)

end ClientKey

section Report
variable {toUpper toLower : Char → List Char} {keys : KeyGenerator} {semanticCacheEnabled : Bool} {answers : InitAnswers}
  {files : InitFiles} {clients : List (GatewayClient AtLeastOne)} {server : ServerConfigPromptResult Port}
  (run : AgentRun toUpper toLower keys answers files clients server) {written : PlainEnv} (hvars : written.vars = files.vars)
  {ref : String}

include run hvars

theorem AgentRun.clientKey_written (h : ∃ a ∈ answers.clients, deriveGatewayKeyRef toUpper a.id = ref) :
    isBlank (getVar written.text ref) = false := by
  obtain ⟨id, call, hget⟩ := run.clientKey h
  rw [← hvars] at hget
  rw [← Bool.not_eq_true, isBlank_of_get? hget]
  exact clientKey_not_blank

/-- A provider's secret is blank when no client has its name. -/
theorem AgentRun.secret_blank_iff {p : ProviderAnswer} (hp : p ∈ answers.providers)
    (href : ref = deriveApiKeyRef toUpper p.id ∨ (isOpenAiProviderType p.type = true ∧ ref = deriveBaseUrlRef toUpper p.id)) :
    isBlank (getVar written.text ref) = true ↔ ∀ a ∈ answers.clients, deriveGatewayKeyRef toUpper a.id ≠ ref := by
  constructor
  · intro hblank a ha heq
    cases hblank.symm.trans (run.clientKey_written hvars ⟨a, ha, heq⟩)
  · intro hno
    have hget := run.providerSecret hp href (fun ⟨a, ha, heq⟩ => hno a ha heq)
    rw [← hvars] at hget
    rw [isBlank_of_get? hget]
    decide

theorem AgentRun.masterKey_written : isBlank (getVar written.text "MASTER_KEY") = false := by
  have hget : written.vars.get? "MASTER_KEY" = some (generateMasterKey keys) := by
    rw [hvars, run.made]
    exact get?_masterKey run.derived
  rw [← Bool.not_eq_true, isBlank_of_get? hget]
  exact JsString.trim_ne_empty g_mem_masterKey (by decide)

/-- Sentry is on where it was asked for, and its address is blank. -/
theorem AgentRun.sentry_iff : sentryEnabled written.text = true ↔ answers.server.metricsBackend = some .sentry := by
  have hget : written.vars.get? "SENTRY_ENABLED" =
      some (boolText (isSentryEnabled (inputsOf toUpper keys answers clients server).envInput)) := by
    rw [hvars, run.setting (by decide) (by decide)]
    unfold settingAssignments
    cases isEnvInputRedisRequired (inputsOf toUpper keys answers clients server).envInput <;> rfl
  have hbackend : isSentryEnabled (inputsOf toUpper keys answers clients server).envInput = true ↔
      answers.server.metricsBackend = some .sentry := by
    show decide (server.metricsBackend.getD .noop = .sentry) = true ↔ _
    rw [run.metricsBackend, decide_eq_true_iff]
    cases answers.server.metricsBackend with
    | none => simp
    | some backend => simp
  rw [← hbackend, sentryEnabled, getVar_eq_get? (by decide), hget]
  cases isSentryEnabled (inputsOf toUpper keys answers clients server).envInput <;> decide

theorem AgentRun.dsn_blank : isBlank (getVar written.text "SENTRY_DSN") = true := by
  have hget : written.vars.get? "SENTRY_DSN" = some "" := by
    rw [hvars, run.setting (by decide) (by decide)]
    have hdsn : (if isSentryEnabled (inputsOf toUpper keys answers clients server).envInput then
        (inputsOf toUpper keys answers clients server).envInput.sentryDsn.getD "" else "") = "" := by
      show (if _ then server.sentryDsn.getD "" else "") = ""
      rw [run.sentryDsn]
      exact ite_self ""
    unfold settingAssignments
    rw [hdsn]
    cases isEnvInputRedisRequired (inputsOf toUpper keys answers clients server).envInput <;> rfl
  rw [isBlank_of_get? hget]
  decide

omit run hvars

end Report

section Result
variable {toUpper toLower : Char → List Char} {keys : KeyGenerator} {answers : InitAnswers}
  {files : InitFiles} {clients : List (GatewayClient AtLeastOne)} {server : ServerConfigPromptResult Port}
  (run : AgentRun toUpper toLower keys answers files clients server)

include run in
theorem AgentRun.row {id : String} {row : ProviderRow} : files.config.gateway.providers.get? id = some row ↔
    ∃ p, answers.provider? id = some p ∧ p.row toUpper = row := by
  rw [run.made]
  show (answers.gateway toUpper).providers.get? id = some row ↔ _
  rw [get?_gateway_providers, Option.map_eq_some_iff]

/-- The secret that a provider needs: a key, or the URL of an OpenAI endpoint. -/
def ProviderAnswer.secretRef (toUpper : Char → List Char) (p : ProviderAnswer) : String :=
  if isOpenAiProviderType p.type then deriveBaseUrlRef toUpper p.id else deriveApiKeyRef toUpper p.id

theorem secretRef_cases (p : ProviderAnswer) : p.secretRef toUpper = deriveApiKeyRef toUpper p.id ∨
    (isOpenAiProviderType p.type = true ∧ p.secretRef toUpper = deriveBaseUrlRef toUpper p.id) := by
  unfold ProviderAnswer.secretRef
  split
  · next htype => exact .inr ⟨htype, rfl⟩
  · exact .inl rfl

include run in
theorem AgentRun.concerns_iff {written : PlainEnv} (hvars : written.vars = files.vars) {item : PendingSecretsItem} :
    item ∈ collectPendingSecrets files.config written.text agentOptions ↔
      (∃ id p, answers.provider? id = some p ∧ p.enabled ≠ some false ∧
        (∀ a ∈ answers.clients, deriveGatewayKeyRef toUpper a.id ≠ p.secretRef toUpper) ∧
        item =
          { envRef := p.secretRef toUpper, providerInstance := some id
            reason := if isOpenAiProviderType p.type then .providerBaseUrl else .providerApiKey }) ∨
      (answers.server.metricsBackend = some .sentry ∧ item = { envRef := "SENTRY_DSN", reason := .sentryDsn }) := by
  rw [mem_collectPendingSecrets_iff]
  constructor
  · rintro ⟨hblank, hconcerns⟩
    -- The keys that the generator made are written, so nothing but a secret of the user is blank.
    cases hconcerns with
    | masterKey =>
      have hmaster : files.config.masterKeyRef = "MASTER_KEY" := by rw [run.made]
      rw [hmaster] at hblank
      cases hblank.symm.trans (run.masterKey_written hvars)
    | apiKey id row hrow henabled hrequired =>
      obtain ⟨p, hp, rfl⟩ := run.row.mp hrow
      obtain ⟨hmem, rfl⟩ := provider?_mem hp
      have htype : isOpenAiProviderType p.type = false := by
        simpa [isApiKeyRequiredForProviderType, ProviderAnswer.row] using hrequired
      have hsecret : p.secretRef toUpper = deriveApiKeyRef toUpper p.id := by
        rw [ProviderAnswer.secretRef, htype, if_neg Bool.false_ne_true]
      refine .inl ⟨p.id, p, hp, by simpa [ProviderAnswer.row] using henabled, ?_, ?_⟩
      · rw [hsecret]
        exact (run.secret_blank_iff hvars hmem (.inl rfl)).mp hblank
      · rw [hsecret, htype]
        rfl
    | baseUrl id row ref hrow henabled htype href hne =>
      obtain ⟨p, hp, rfl⟩ := run.row.mp hrow
      obtain ⟨hmem, rfl⟩ := provider?_mem hp
      have htype : isOpenAiProviderType p.type = true := htype
      have hsecret : p.secretRef toUpper = deriveBaseUrlRef toUpper p.id := by
        rw [ProviderAnswer.secretRef, if_pos htype]
      obtain rfl : deriveBaseUrlRef toUpper p.id = ref := by
        simpa [ProviderAnswer.row, htype] using href
      refine .inl ⟨p.id, p, hp, by simpa [ProviderAnswer.row] using henabled, ?_, ?_⟩
      · rw [hsecret]
        exact (run.secret_blank_iff hvars hmem (.inr ⟨htype, rfl⟩)).mp hblank
      · rw [hsecret, htype]
        rfl
    | client id client hclient =>
      have hrows : (clientRows clients).get? id = some client := by
        rw [run.made] at hclient
        exact hclient
      obtain ⟨c, hc, heq⟩ := List.mem_map.mp (JsMap.mem_of_mem_ofEntries (JsMap.mem_entries.mpr hrows))
      obtain ⟨-, rfl⟩ := Prod.mk.inj heq
      cases hblank.symm.trans (run.clientKey_written hvars (run.clientRef_iff.mp ⟨c, hc, rfl⟩))
    | sentry henabled => exact .inr ⟨(run.sentry_iff hvars).mp henabled, rfl⟩
  · rintro (⟨id, p, hp, henabled, hno, rfl⟩ | ⟨hsentry, rfl⟩)
    · obtain ⟨hmem, rfl⟩ := provider?_mem hp
      have hrow := run.row.mpr ⟨p, hp, rfl⟩
      have hactive : (p.row toUpper).enabled = true := by simpa [ProviderAnswer.row] using henabled
      refine ⟨(run.secret_blank_iff hvars hmem (secretRef_cases p)).mpr hno, ?_⟩
      cases htype : isOpenAiProviderType p.type with
      | true =>
        have href : (p.row toUpper).baseUrlRef = some (deriveBaseUrlRef toUpper p.id) := by
          simp [ProviderAnswer.row, htype]
        simp only [ProviderAnswer.secretRef, htype, if_true]
        exact .baseUrl p.id (p.row toUpper) _ hrow hactive htype href (baseUrlRef_ne p.id)
      | false =>
        have hrequired : isApiKeyRequiredForProviderType (p.row toUpper).type = true := by
          simp [isApiKeyRequiredForProviderType, ProviderAnswer.row, htype]
        simp only [ProviderAnswer.secretRef, htype, Bool.false_eq_true, if_false]
        exact .apiKey p.id (p.row toUpper) hrow hactive hrequired
    · exact ⟨run.dsn_blank hvars, .sentry ((run.sentry_iff hvars).mpr hsentry)⟩

end Result

/-- **The report asks for the secret of each enabled provider, but for one that a client's key was
written over, and for the address of Sentry where it is on.** -/
theorem agent_pending_iff (toUpper toLower : Char → List Char) (keys : KeyGenerator) (semanticCacheEnabled : Bool)
    (answers : InitAnswers) (files : InitFiles) (written : PlainEnv) (hschema : InitAnswersSchema answers = true)
    (hrun : filesFromAnswers toUpper toLower keys semanticCacheEnabled answers = .ok files)
    (hvars : written.vars = files.vars) (item : PendingSecretsItem) :
    item ∈ collectPendingSecrets files.config written.text agentOptions ↔
      (∃ id p, answers.provider? id = some p ∧ p.enabled ≠ some false ∧
        (∀ a ∈ answers.clients, deriveGatewayKeyRef toUpper a.id ≠ p.secretRef toUpper) ∧
        item =
          { envRef := p.secretRef toUpper, providerInstance := some id
            reason := if isOpenAiProviderType p.type then .providerBaseUrl else .providerApiKey }) ∨
      (answers.server.metricsBackend = some .sentry ∧ item = { envRef := "SENTRY_DSN", reason := .sentryDsn }) := by
  obtain ⟨clients, server, run⟩ := exists_agentRun hschema hrun
  exact run.concerns_iff hvars

section Boot
variable {toUpper toLower : Char → List Char} {keys : KeyGenerator} {answers : InitAnswers}
  {files : InitFiles} {clients : List (GatewayClient AtLeastOne)} {server : ServerConfigPromptResult Port}
  (run : AgentRun toUpper toLower keys answers files clients server) {written : PlainEnv} (hvars : written.vars = files.vars)
  {url : UrlParser} {after : ProcessEnv}
  (hfilled : FilledIn url (collectPendingSecrets files.config written.text agentOptions) files.vars after) {ref : String}

include run hvars hfilled

/-- A variable that is not a provider's secret stays as it was written. -/
theorem AgentRun.kept_plain (hplain : isPlainName ref = true) (hne : ref ≠ "SENTRY_DSN") :
    after.get? ref = files.vars.get? ref := by
  apply hfilled.kept
  rintro item hitem rfl
  obtain ⟨id, p, -, -, -, rfl⟩ | ⟨-, rfl⟩ := (run.concerns_iff hvars).mp hitem
  · have hderived : DerivedRef toUpper (p.secretRef toUpper) := by
      obtain href | ⟨-, href⟩ := @secretRef_cases toUpper p
      · exact ⟨p.id, .inl href⟩
      · exact ⟨p.id, .inr (.inl href)⟩
    exact not_derivedRef hplain hderived
  · exact hne rfl

/-- So does one that has a client's key. -/
theorem AgentRun.kept_clientKey (h : ∃ a ∈ answers.clients, deriveGatewayKeyRef toUpper a.id = ref) :
    ∃ id call, after.get? ref = some (generateGatewayClientKey toLower keys id call) := by
  have hkept : after.get? ref = files.vars.get? ref := by
    apply hfilled.kept
    rintro item hitem rfl
    obtain ⟨id, p, -, -, hno, rfl⟩ | ⟨-, rfl⟩ := (run.concerns_iff hvars).mp hitem
    · obtain ⟨a, ha, heq⟩ := h
      exact hno a ha heq
    · obtain ⟨a, -, heq⟩ := h
      have hplain : isPlainName "SENTRY_DSN" = true := by decide
      exact not_derivedRef hplain ⟨a.id, .inr (.inr heq.symm)⟩
  rw [hkept]
  exact run.clientKey h

/-- The secret of an enabled provider is there: it was filled in, or it is a client's key. -/
theorem AgentRun.secret_given {id : String} {p : ProviderAnswer} (hp : answers.provider? id = some p)
    (henabled : p.enabled ≠ some false) : (given after (p.secretRef toUpper)).isSome = true := by
  by_cases hclient : ∃ a ∈ answers.clients, deriveGatewayKeyRef toUpper a.id = p.secretRef toUpper
  · obtain ⟨_, _, hget⟩ := run.kept_clientKey hvars hfilled hclient
    rw [given, hget, Option.map_some, JsString.truthy_some, if_neg clientKey_not_blank]
    rfl
  · have hno : ∀ a ∈ answers.clients, deriveGatewayKeyRef toUpper a.id ≠ p.secretRef toUpper :=
      fun a ha heq => hclient ⟨a, ha, heq⟩
    exact hfilled.given _ ((run.concerns_iff hvars).mpr (.inl ⟨id, p, hp, henabled, hno, rfl⟩))

/-- The settings of the boot are the written ones. -/
theorem AgentRun.settings : ∃ obj settings, validate after = some obj ∧ buildSettings after obj = .ok settings := by
  have hkept : ∀ name ∈ settingNames,
      after.get? name = (generateEnvTemplate (inputsOf toUpper keys answers clients server).envInput).get? name := by
    intro name hname
    have hne : name ≠ "SENTRY_DSN" := by
      rintro rfl
      exact absurd hname (by decide)
    rw [run.kept_plain hvars hfilled (settingNames_plain name hname) hne, run.made]
  have w := Wizard.written (made_noReference run.derived) hkept
  exact ⟨_, _, validate_written w, buildSettings_written w _⟩

end Boot

section Boot
variable {toUpper toLower : Char → List Char} {keys : KeyGenerator} {answers : InitAnswers}
  {files : InitFiles} {clients : List (GatewayClient AtLeastOne)} {server : ServerConfigPromptResult Port}
  (run : AgentRun toUpper toLower keys answers files clients server)

/-- No enabled provider's URL has the name of a client's key. -/
def UrlsFree (toUpper : Char → List Char) (answers : InitAnswers) : Prop :=
  ∀ id p, answers.provider? id = some p → p.enabled ≠ some false → isOpenAiProviderType p.type = true →
    ∀ a ∈ answers.clients, deriveGatewayKeyRef toUpper a.id ≠ deriveBaseUrlRef toUpper id

include run in
/-- The secrets the boot asks for are those of the enabled providers, beside the master key. -/
theorem AgentRun.forall_requiredRefs {P : String → Prop} : (∀ ref ∈ requiredRefs files.config, P ref) ↔
    P "MASTER_KEY" ∧ ∀ id p, answers.provider? id = some p → p.enabled ≠ some false → P (p.secretRef toUpper) := by
  have hmaster : files.config.masterKeyRef = "MASTER_KEY" := by rw [run.made]
  rw [requiredRefs, List.forall_mem_cons, List.forall_mem_append, forall_requiredKeyRefs, forall_requiredBaseUrlRefs, hmaster]
  apply and_congr_right
  intro _
  constructor
  -- The type decides which of the two lists the secret of a provider is in.
  · rintro ⟨hkeys, hurls⟩ id p hp henabled
    have hentry := JsMap.mem_entries.mpr (run.row.mpr ⟨p, hp, rfl⟩)
    have hactive : (p.row toUpper).enabled = true := by simpa [ProviderAnswer.row] using henabled
    unfold ProviderAnswer.secretRef
    split
    · next htype =>
      refine hurls _ hentry ?_ _ ?_
      · rw [hactive, Bool.true_and]
        exact htype
      · simp [ProviderAnswer.row, htype]
    · next htype =>
      apply hkeys _ hentry
      rw [hactive, Bool.true_and]
      simpa [isApiKeyRequiredForProviderType, ProviderAnswer.row] using htype
  · intro h
    constructor
    · rintro ⟨id, row⟩ hentry hrequired
      obtain ⟨p, hp, rfl⟩ := run.row.mp (JsMap.mem_entries.mp hentry)
      rw [Bool.and_eq_true] at hrequired
      have henabled : p.enabled ≠ some false := by simpa [ProviderAnswer.row] using hrequired.1
      have htype : isOpenAiProviderType p.type = false := by
        simpa [isApiKeyRequiredForProviderType, ProviderAnswer.row] using hrequired.2
      have hsecret := h id p hp henabled
      rw [ProviderAnswer.secretRef, htype, if_neg Bool.false_ne_true] at hsecret
      exact hsecret
    · rintro ⟨id, row⟩ hentry hrequired ref href
      obtain ⟨p, hp, rfl⟩ := run.row.mp (JsMap.mem_entries.mp hentry)
      rw [Bool.and_eq_true] at hrequired
      have henabled : p.enabled ≠ some false := by simpa [ProviderAnswer.row] using hrequired.1
      have htype : isOpenAiProviderType p.type = true := hrequired.2
      have hsecret := h id p hp henabled
      rw [ProviderAnswer.secretRef, htype, if_pos rfl] at hsecret
      obtain rfl : deriveBaseUrlRef toUpper p.id = ref := by simpa [ProviderAnswer.row, htype] using href
      exact hsecret

include run in
theorem AgentRun.forall_requiredBaseUrlRefs {P : String → Prop} : (∀ ref ∈ requiredBaseUrlRefs files.config.gateway, P ref) ↔
    ∀ id p, answers.provider? id = some p → p.enabled ≠ some false → isOpenAiProviderType p.type = true →
      P (deriveBaseUrlRef toUpper id) := by
  rw [AiGateway.forall_requiredBaseUrlRefs]
  constructor
  · intro h id p hp henabled htype
    have hactive : (p.row toUpper).enabled = true := by simpa [ProviderAnswer.row] using henabled
    refine h _ (JsMap.mem_entries.mpr (run.row.mpr ⟨p, hp, rfl⟩)) ?_ _ ?_
    · rw [hactive, Bool.true_and]
      exact htype
    · rw [← (provider?_mem hp).2]
      simp [ProviderAnswer.row, htype]
  · rintro h ⟨id, row⟩ hentry hrequired ref href
    obtain ⟨p, hp, rfl⟩ := run.row.mp (JsMap.mem_entries.mp hentry)
    rw [Bool.and_eq_true] at hrequired
    have henabled : p.enabled ≠ some false := by simpa [ProviderAnswer.row] using hrequired.1
    have htype : isOpenAiProviderType p.type = true := hrequired.2
    obtain rfl : deriveBaseUrlRef toUpper p.id = ref := by simpa [ProviderAnswer.row, htype] using href
    rw [(provider?_mem hp).2]
    exact h id p hp henabled htype

end Boot

/-- **With the pending secrets filled in, the gateway boots unless a client's key is where the URL
of a provider was to be.** -/
theorem agent_init_boots_iff (toUpper toLower : Char → List Char) (keys : KeyGenerator) (semanticCacheEnabled : Bool)
    (answers : InitAnswers) (files : InitFiles) (url : UrlParser) (written after : PlainEnv)
    (hschema : InitAnswersSchema answers = true)
    (hrun : filesFromAnswers toUpper toLower keys semanticCacheEnabled answers = .ok files)
    (hvars : written.vars = files.vars)
    (hfilled : FilledIn url (collectPendingSecrets files.config written.text agentOptions) files.vars after.vars) :
    Boots url files.config after.vars ↔ UrlsFree toUpper answers := by
  obtain ⟨clients, server, run⟩ := exists_agentRun hschema hrun
  have hchecks : validateParsedGatewayConfig url files.config.masterKeyRef files.config.gateway after.vars = .ok () ↔
      (assertMasterKeyPresent files.config.masterKeyRef after.vars = .ok () ∧
        assertEnabledProviderSecretsPresent url files.config.gateway after.vars = .ok ()) := by
    rw [validateParsedGatewayConfig, Fallible.bind_eq_ok]
    exact Unique.exists_iff
  have hsettings := run.settings hvars hfilled
  rw [Boots, hchecks, boot_iff run.accepted, and_iff_left ⟨run.effective, hsettings⟩, run.forall_requiredRefs,
    run.forall_requiredBaseUrlRefs]
  have hmaster : (given after.vars "MASTER_KEY").isSome = true := by
    have hget : after.vars.get? "MASTER_KEY" = some (generateMasterKey keys) := by
      rw [run.kept_plain hvars hfilled (by decide) (by decide), run.made]
      exact get?_masterKey run.derived
    exact given_of_get? hget g_mem_masterKey (by decide)
  constructor
  · rintro ⟨-, hurls⟩ id p hp henabled htype a ha heq
    obtain ⟨clientId, call, hget⟩ := run.kept_clientKey hvars hfilled ⟨a, ha, heq⟩
    have hgiven : given after.vars (deriveBaseUrlRef toUpper id) =
        some (JsString.trim (generateGatewayClientKey toLower keys clientId call)) := by
      rw [given, hget, Option.map_some, JsString.truthy_some, if_neg clientKey_not_blank]
    -- a key has no colon, and a URL has one
    apply @clientKey_no_colon toLower keys clientId call
    obtain hprotocol | hprotocol := hurls id p hp henabled htype _ hgiven
    · exact JsString.mem_of_mem_trim (url.colon_mem _ _ hprotocol)
    · exact JsString.mem_of_mem_trim (url.colon_mem _ _ hprotocol)
  · intro hfree
    refine ⟨⟨hmaster, fun id p hp henabled => run.secret_given hvars hfilled hp henabled⟩, ?_⟩
    intro id p hp henabled htype raw hraw
    have hsecret : p.secretRef toUpper = deriveBaseUrlRef toUpper id := by
      rw [ProviderAnswer.secretRef, htype, if_pos rfl, (provider?_mem hp).2]
    have hno : ∀ a ∈ answers.clients, deriveGatewayKeyRef toUpper a.id ≠ p.secretRef toUpper := by
      rw [hsecret]
      exact hfree id p hp henabled htype
    have hitem := (run.concerns_iff hvars).mpr (.inl ⟨id, p, hp, henabled, hno, rfl⟩)
    rw [← hsecret] at hraw
    exact hfilled.url _ hitem (if_pos htype) raw hraw

/-! ## A report, filled in -/

theorem webRps_atLeastOne : (Json.natNumber 5).value.den = 1 ∧ 1 ≤ (Json.natNumber 5).value :=
  natNumber_atLeastOne (by decide)

theorem webBurst_atLeastOne : (Json.natNumber 10).value.den = 1 ∧ 1 ≤ (Json.natNumber 10).value :=
  natNumber_atLeastOne (by decide)

theorem webPort_port : (Json.natNumber 8080).value.den = 1 ∧ 1 ≤ (Json.natNumber 8080).value ∧
    (Json.natNumber 8080).value ≤ 65535 :=
  natNumber_port (by decide) (by decide)

def webClients : List (GatewayClient AtLeastOne) :=
  [⟨"web", "Web", .webapp, "GATEWAY_KEY_WEB", "gw_web_seg1",
    some ⟨⟨Json.natNumber 5, webRps_atLeastOne⟩, ⟨Json.natNumber 10, webBurst_atLeastOne⟩, none⟩⟩]

def webServer : ServerConfigPromptResult Port where
  port := ⟨Json.natNumber 8080, webPort_port⟩
  nodeEnv := "production"
  swaggerEnabled := none
  cacheEnabled := some true
  cacheBackend := some .redis
  redisHost := some "redis"
  redisPort := none
  redisPassword := some ""
  rateLimitSmartEnabled := none
  semanticCacheEnabled := some false
  metricsBackend := some .sentry
  sentryDsn := some ""

/-- What the command leaves for the sample answers. -/
def webFiles : InitFiles where
  config := ⟨"MASTER_KEY", (agentAnswers "web").gateway asciiUpper, clientRows webClients⟩
  vars := generateEnvTemplate (inputsOf asciiUpper sampleKeys (agentAnswers "web") webClients webServer).envInput

theorem webAnswers_accepted : InitAnswersSchema (agentAnswers "web") = true := by decide +kernel

theorem webFiles_run : filesFromAnswers asciiUpper asciiLower sampleKeys false (agentAnswers "web") = .ok webFiles := by
  have hclients : collect (clientFromAnswer asciiUpper asciiLower sampleKeys) ((agentAnswers "web").clients.zipIdx 1) =
      .ok webClients := by decide +kernel
  have hserver : mapServerConfigFromAnswers false (agentAnswers "web").server = .ok webServer := by decide +kernel
  have hsound := agentAnswers_sound "web"
  refine (filesFromAnswers_ok webAnswers_accepted).mpr ⟨webClients, webServer, hclients, hserver, ?_, rfl⟩
  exact (structureValid_iff webAnswers_accepted (made_of_collect hclients)).mpr
    ⟨(gateway_accepted_iff webAnswers_accepted).mpr ⟨hsound.distinct, hsound.served⟩, hsound.safeRates, hsound.active⟩

/-- The variables that are assigned are those of a plain file. -/
theorem plain_assignments {l : List (String × String)} (h : ∀ entry ∈ l, IsEnvName entry.1 ∧ SingleLine entry.2.toList) :
    ∀ entry ∈ (JsMap.ofEntries l).entries, IsEnvName entry.1 ∧ SingleLine entry.2.toList :=
  fun entry hentry => h entry (JsMap.mem_of_mem_ofEntries hentry)

def webAssignments : List (String × String) :=
  envAssignments (inputsOf asciiUpper sampleKeys (agentAnswers "web") webClients webServer).envInput

theorem web_headAssignments :
    headAssignments (inputsOf asciiUpper sampleKeys (agentAnswers "web") webClients webServer).envInput =
      [("APP_VERSION", "1.0.0"), ("PORT", "8080"), ("NODE_ENV", "production"), ("SWAGGER_ENABLED", "true")] := by
  decide +kernel

theorem web_refAssignments :
    refAssignments (inputsOf asciiUpper sampleKeys (agentAnswers "web") webClients webServer).envInput =
      [("MASTER_KEY", "gw_mk_seg0"), ("ANTHROPIC_PRIMARY_API_KEY", ""), ("GATEWAY_KEY_WEB_API_KEY", ""),
        ("GATEWAY_KEY_WEB_BASE_URL", ""), ("GATEWAY_KEY_WEB", "gw_web_seg1")] :=
  rfl

theorem web_settingAssignments :
    settingAssignments (inputsOf asciiUpper sampleKeys (agentAnswers "web") webClients webServer).envInput =
      [("CACHE_ENABLED", "true"), ("CACHE_BACKEND", "redis"), ("CACHE_TTL", "3600"), ("CACHE_KEY_PREFIX", "aigw:"),
        ("REDIS_HOST", "redis"), ("REDIS_PORT", "6379"), ("REDIS_PASSWORD", ""), ("REDIS_DB", "0"),
        ("REDIS_KEY_PREFIX", "aigw:"), ("RATE_LIMIT_SMART_ENABLED", "false"), ("RATE_LIMIT_RPS_PER_KEY", "10"),
        ("RATE_LIMIT_BURST_PER_KEY", "20"), ("RATE_LIMIT_STREAMS_CONCURRENT", "3"), ("RATE_LIMIT_COOLDOWN_AFTER_429", "60"),
        ("LOG_LEVEL", "info"), ("LOG_ADAPTER", "pino"), ("LOG_PRETTY", "false"), ("AI_METRICS_BACKEND", "sentry"),
        ("METRICS_BACKEND", "prometheus"), ("ERROR_REPORTING_ADAPTER", "sentry"), ("SENTRY_ENABLED", "true"),
        ("SENTRY_DSN", ""), ("SENTRY_INCLUDE_PROMPTS", "true"), ("SENTRY_ENVIRONMENT", "production"),
        ("SENTRY_TRACES_SAMPLE_RATE", "0.1")] :=
  rfl

/-- An assignment is plain by its characters. -/
theorem plain_ofList {name value : List Char} (hname : '=' ∉ name ∧ '\n' ∉ name) (hvalue : SingleLine value) :
    IsEnvName (String.ofList name) ∧ SingleLine (String.ofList value).toList := by
  rw [IsEnvName, String.toList_ofList, String.toList_ofList]
  exact ⟨hname, hvalue⟩

theorem webAssignments_plain : ∀ entry ∈ webAssignments, IsEnvName entry.1 ∧ SingleLine entry.2.toList := by
  rw [webAssignments, envAssignments, web_headAssignments, web_refAssignments, web_settingAssignments]
  simp only [List.forall_mem_append, List.forall_mem_cons]
  refine ⟨⟨?_, ?_⟩, ?_⟩
  all_goals
    repeat' first
      | exact List.forall_mem_nil _
      | refine ⟨plain_ofList (by decide) (by decide), ?_⟩

def webEnv : PlainEnv := PlainEnv.ofVars (JsMap.ofEntries webAssignments) (plain_assignments webAssignments_plain)

/-- The human's part. -/
def webSecrets : List (String × String) :=
  [("ANTHROPIC_PRIMARY_API_KEY", "sk-1"), ("GATEWAY_KEY_WEB_BASE_URL", "https://llama.local/v1"),
    ("SENTRY_DSN", "https://sentry.local/1")]

theorem webFilled_plain :
    ∀ entry ∈ webAssignments ++ webSecrets, IsEnvName entry.1 ∧ SingleLine entry.2.toList := by
  rw [List.forall_mem_append]
  refine ⟨webAssignments_plain, ?_⟩
  simp only [webSecrets, List.forall_mem_cons]
  exact ⟨plain_ofList (by decide) (by decide), plain_ofList (by decide) (by decide), plain_ofList (by decide) (by decide),
    List.forall_mem_nil _⟩

def webFilled : PlainEnv := PlainEnv.ofVars (JsMap.ofEntries (webAssignments ++ webSecrets)) (plain_assignments webFilled_plain)

def webPending : List PendingSecretsItem :=
  [{ envRef := "ANTHROPIC_PRIMARY_API_KEY", reason := .providerApiKey, providerInstance := some "anthropic-primary" },
    { envRef := "GATEWAY_KEY_WEB_BASE_URL", reason := .providerBaseUrl, providerInstance := some "gateway-key-web" },
    { envRef := "SENTRY_DSN", reason := .sentryDsn }]

/-- What the run leaves open: the secrets of the two providers and the address of Sentry. -/
theorem mem_webPending {item : PendingSecretsItem} :
    item ∈ collectPendingSecrets webFiles.config webEnv.text agentOptions ↔ item ∈ webPending := by
  obtain ⟨clients, server, run⟩ := exists_agentRun webAnswers_accepted webFiles_run
  have hweb : deriveGatewayKeyRef asciiUpper "web" = "GATEWAY_KEY_WEB" := rfl
  rw [run.concerns_iff rfl]
  simp only [webPending, List.mem_cons, List.not_mem_nil, or_false]
  constructor
  · rintro (⟨id, p, hp, -, -, rfl⟩ | ⟨-, rfl⟩)
    · obtain ⟨rfl, rfl⟩ | ⟨rfl, rfl⟩ := agentAnswers_provider hp
      · exact .inl rfl
      · exact .inr (.inl rfl)
    · exact .inr (.inr rfl)
  · rintro (rfl | rfl | rfl)
    · refine .inl ⟨"anthropic-primary", _, rfl, by decide, ?_, rfl⟩
      rintro a ha
      obtain rfl := List.mem_singleton.mp ha
      decide
    · refine .inl ⟨"gateway-key-web", _, rfl, by decide, ?_, rfl⟩
      rintro a ha
      obtain rfl := List.mem_singleton.mp ha
      decide
    · exact .inr ⟨rfl, rfl⟩

/-- A secret that was filled in is the last line of its name. -/
theorem webFilled_secret {name value : String} (h : JsMap.lastOf webSecrets name = some value) :
    webFilled.vars.get? name = some value := by
  show (JsMap.ofEntries (webAssignments ++ webSecrets)).get? name = _
  rw [JsMap.get?_ofEntries, JsMap.lastOf_append, h, Option.some_or]

theorem webFilled_filledIn :
    FilledIn webUrl (collectPendingSecrets webFiles.config webEnv.text agentOptions) webFiles.vars webFilled.vars where
  kept := by
    intro name hname
    have hpending : ∀ item ∈ webPending, item.envRef ≠ name := fun item hitem => hname item (mem_webPending.mpr hitem)
    have hne : ∀ entry ∈ webSecrets, entry.1 ≠ name := by
      simp only [webPending, List.forall_mem_cons] at hpending
      simp only [webSecrets, List.forall_mem_cons]
      exact ⟨hpending.1, hpending.2.1, hpending.2.2.1, nofun⟩
    show (JsMap.ofEntries (webAssignments ++ webSecrets)).get? name = (JsMap.ofEntries webAssignments).get? name
    rw [JsMap.get?_ofEntries, JsMap.get?_ofEntries, JsMap.lastOf_append_left hne]
  given := by
    intro item hitem
    rw [mem_webPending] at hitem
    simp only [webPending, List.mem_cons, List.not_mem_nil, or_false] at hitem
    obtain rfl | rfl | rfl := hitem
    · rw [given, webFilled_secret (by rfl)]
      decide
    · rw [given, webFilled_secret (by rfl)]
      decide
    · rw [given, webFilled_secret (by rfl)]
      decide
  url := by
    have href : ∀ item ∈ webPending, item.reason = .providerBaseUrl → item.envRef = "GATEWAY_KEY_WEB_BASE_URL" := by
      decide
    have hgiven : given webFilled.vars "GATEWAY_KEY_WEB_BASE_URL" = some "https://llama.local/v1" := by
      rw [given, webFilled_secret (by rfl)]
      decide
    intro item hitem hreason raw hraw
    rw [href item (mem_webPending.mp hitem) hreason, hgiven] at hraw
    obtain rfl := Option.some.inj hraw
    exact .inr (by decide)

theorem agent_init_boots_web : Boots webUrl webFiles.config webFilled.vars := by
  refine (agent_init_boots_iff asciiUpper asciiLower sampleKeys false (agentAnswers "web") webFiles webUrl webEnv webFilled
    webAnswers_accepted webFiles_run rfl webFilled_filledIn).mpr ?_
  intro id p hp _ _ a ha
  obtain rfl := List.mem_singleton.mp ha
  obtain ⟨rfl, rfl⟩ | ⟨rfl, rfl⟩ := agentAnswers_provider hp
  · decide
  · decide

theorem agent_pending_web :
    ∃ item ∈ collectPendingSecrets webFiles.config webEnv.text agentOptions, item.envRef = "GATEWAY_KEY_WEB_BASE_URL" := by
  refine ⟨_, (agent_pending_iff asciiUpper asciiLower sampleKeys false (agentAnswers "web") webFiles webEnv
    webAnswers_accepted webFiles_run rfl _).mpr (.inl ⟨"gateway-key-web", _, rfl, by decide, ?_, rfl⟩), rfl⟩
  intro a ha
  obtain rfl := List.mem_singleton.mp ha
  decide

end AiGateway.Cli.Wizard
