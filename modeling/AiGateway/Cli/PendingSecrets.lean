import AiGateway.Cli.ManagedConfig
import AiGateway.Config.ConfigurationValidation

/- The gate for missing secrets (`config:secrets-status`, the agent's commands): what
   `collectPendingSecrets` finds in `.env`, and the boot's own check on the same variables.

   The gate asks a base URL to be there, the boot asks it to be a URL of the web; the gate reads
   `.env` by the start of a line, the boot by the name of a variable, which differ for a
   reference with a `=` in it. `gate_agrees_iff` is the exact extent. -/
namespace AiGateway.Cli

/-! ## The gate -/

inductive PendingReason where
  | providerApiKey | providerBaseUrl | sentryDsn | redisPassword | masterKey | clientGatewayKey
  deriving DecidableEq, Repr

structure PendingSecretsItem where
  envRef : String
  file : String := ".env"
  reason : PendingReason
  providerInstance : Option String := none
  clientId : Option String := none
  deriving DecidableEq, Repr

structure PendingOptions where
  includeClientKeys : Option Bool := none
  includeMasterKey : Option Bool := none
  includeOperatorEnv : Option Bool := none

/-- `!value?.trim()`. -/
def isBlank (value : Option (List Char)) : Bool := value.all fun v => JsString.trim (String.ofList v) = ""

/-- The item of a variable that is missing or blank. -/
def pendingIfBlank (env : EnvText) (item : PendingSecretsItem) : List PendingSecretsItem :=
  if isBlank (getVar env item.envRef) then [item] else []

/-- The items of one row of `config.providers`. -/
def pendingOfProvider (env : EnvText) (instanceId : String) (provider : ProviderRow) : List PendingSecretsItem :=
  if !provider.enabled then []
  else
    (if isApiKeyRequiredForProviderType provider.type then
      pendingIfBlank env
        { envRef := provider.apiKeyRef, reason := .providerApiKey, providerInstance := some instanceId }
    else []) ++
      if isOpenAiProviderType provider.type then
        (JsString.truthy provider.baseUrlRef).toList.flatMap fun baseUrlRef =>
          pendingIfBlank env { envRef := baseUrlRef, reason := .providerBaseUrl, providerInstance := some instanceId }
      else []

/-- `SENTRY_ENABLED` is `true` or `1`; no other letter than an ASCII one is one of these in lower case. -/
def sentryEnabled (env : EnvText) : Bool :=
  let value := (JsString.trim (String.ofList ((getVar env "SENTRY_ENABLED").getD []))).toList.map Char.toLower
  value = "true".toList || value = "1".toList

def collectPendingSecrets (config : CliConfig) (env : EnvText) (options : PendingOptions) : List PendingSecretsItem :=
  let includeClientKeys := options.includeClientKeys = some true
  let includeMasterKey := options.includeMasterKey ≠ some false
  let includeOperatorEnv := options.includeOperatorEnv ≠ some false
  (if includeMasterKey then pendingIfBlank env { envRef := config.masterKeyRef, reason := .masterKey } else []) ++
    (config.gateway.providers.entries.flatMap fun (instanceId, provider) => pendingOfProvider env instanceId provider) ++
    (if includeClientKeys then
      config.clients.entries.flatMap fun (clientId, client) =>
        pendingIfBlank env { envRef := client.gatewayKeyRef, reason := .clientGatewayKey, clientId := some clientId }
    else []) ++
    if includeOperatorEnv && sentryEnabled env then pendingIfBlank env { envRef := "SENTRY_DSN", reason := .sentryDsn } else []

/-- The items that are about something the boot asks for. -/
def BlocksBoot (item : PendingSecretsItem) : Prop :=
  item.reason = .masterKey ∨ item.reason = .providerApiKey ∨ item.reason = .providerBaseUrl

/-! ## The two sides -/

/-- A `.env` file of lines `NAME=value`, each name once, and the variables it sets. The values
are plain, so that they are read alike by `getVar` and as variables. -/
structure PlainEnv where
  text : EnvText
  vars : ProcessEnv
  lines_eq : Lines.readLines text = vars.entries.map fun (name, value) => assignment name ++ value.toList
  no_eq : ∀ entry ∈ vars.entries, '=' ∉ entry.1.toList

/-- The file that is written for some variables. -/
def PlainEnv.ofVars (vars : ProcessEnv) (h : ∀ entry ∈ vars.entries, IsEnvName entry.1 ∧ SingleLine entry.2.toList) :
    PlainEnv where
  text := Lines.joinLines (vars.entries.map fun (name, value) => assignment name ++ value.toList)
  vars := vars
  lines_eq := by
    have hline : ∀ line ∈ vars.entries.map fun (name, value) => assignment name ++ value.toList,
        '\n' ∉ line ∧ line.getLast? ≠ some '\r' ∧ line ≠ [] := by
      rw [List.forall_mem_map]
      intro (name, value) hentry
      obtain ⟨hname, hvalue⟩ := h (name, value) hentry
      refine ⟨newline_not_mem_assignment hname hvalue.1, ?_, by simp [assignment]⟩
      rw [← Lines.stripCr_eq_self_iff, stripCr_assignment, Lines.stripCr_eq_self_iff.mpr]
      exact fun hcr => hvalue.2 (List.mem_of_getLast? hcr)
    rw [Lines.readLines_joinLines fun line hmem => (hline line hmem).1]
    exact (Lines.filter_map_stripCr_eq_self_iff fun line hmem => (hline line hmem).2.2).mpr
      fun line hmem => (hline line hmem).2.1
  no_eq entry hentry := (h entry hentry).1.1

/-- The references that the boot asks a value of. -/
def requiredRefs (config : CliConfig) : List String :=
  config.masterKeyRef :: (requiredKeyRefs config.gateway ++ requiredBaseUrlRefs config.gateway)

section Gate
variable {config : CliConfig} {env : EnvText} {options : PendingOptions}

theorem forall_pendingIfBlank {item : PendingSecretsItem} {P : PendingSecretsItem → Prop} :
    (∀ i ∈ pendingIfBlank env item, P i) ↔ (isBlank (getVar env item.envRef) = true → P item) := by
  unfold pendingIfBlank
  split
  · next h => simp [h]
  · next h => simp [h]

/-- A row is without items when what it needs is there. -/
theorem pendingOfProvider_iff {instanceId : String} {provider : ProviderRow} (haccepted : provider.accepted = true) :
    (∀ item ∈ pendingOfProvider env instanceId provider, ¬ BlocksBoot item) ↔
      ((provider.enabled && isApiKeyRequiredForProviderType provider.type) = true →
          isBlank (getVar env provider.apiKeyRef) = false) ∧
        ((provider.enabled && isOpenAiProviderType provider.type) = true →
          ∀ ref ∈ provider.baseUrlRef, isBlank (getVar env ref) = false) := by
  -- The schema has no empty reference, so that the truthiness test asks for its presence.
  have htruthy : JsString.truthy provider.baseUrlRef = provider.baseUrlRef := by
    simp only [ProviderRow.accepted, Bool.and_eq_true] at haccepted
    cases href : provider.baseUrlRef with
    | none => rfl
    | some ref =>
      have hne : ref ≠ "" := by simpa [href] using haccepted.1.1.2
      rw [JsString.truthy_some, if_neg hne]
  have hkey : ∀ item : PendingSecretsItem, BlocksBoot item →
      ((∀ i ∈ pendingIfBlank env item, ¬ BlocksBoot i) ↔ isBlank (getVar env item.envRef) = false) := by
    intro item hitem
    rw [forall_pendingIfBlank, ← Bool.not_eq_true]
    exact ⟨fun h hblank => h hblank hitem, fun h hblank => absurd hblank h⟩
  unfold pendingOfProvider
  rw [htruthy]
  cases provider.enabled with
  | false => simp
  | true =>
    simp only [Bool.not_true, Bool.false_eq_true, if_false, Bool.true_and, List.forall_mem_append]
    apply and_congr
    · cases isApiKeyRequiredForProviderType provider.type with
      | false => simp
      | true =>
        rw [if_pos rfl, imp_iff_right rfl]
        exact hkey _ (.inr (.inl rfl))
    · cases isOpenAiProviderType provider.type with
      | false => simp
      | true =>
        rw [if_pos rfl, imp_iff_right rfl]
        cases provider.baseUrlRef with
        | none => simp
        | some ref =>
          simp only [Option.toList_some, List.flatMap_singleton, Option.mem_def, Option.some.injEq, forall_eq']
          exact hkey _ (.inr (.inr rfl))

/-- Nothing that the boot asks for is pending when every required variable reads as not blank. -/
theorem gate_clean_iff (haccepted : config.accepted = true) (hmaster : options.includeMasterKey ≠ some false) :
    (∀ item ∈ collectPendingSecrets config env options, ¬ BlocksBoot item) ↔
      ∀ ref ∈ requiredRefs config, isBlank (getVar env ref) = false := by
  have hrows : ∀ entry ∈ config.gateway.providers.entries, entry.2.accepted = true := by
    simp only [CliConfig.accepted, GatewayConfig.accepted, Bool.and_eq_true] at haccepted
    exact fun entry hentry => List.all_eq_true.mp haccepted.1.2.1.1.1.1 entry hentry
  -- A missing key of a client or of Sentry stops no boot.
  have hclients : ∀ item ∈ (if options.includeClientKeys = some true then
      config.clients.entries.flatMap fun (clientId, client) =>
        pendingIfBlank env { envRef := client.gatewayKeyRef, reason := .clientGatewayKey, clientId := some clientId }
      else []), ¬ BlocksBoot item := by
    split
    · rw [List.forall_mem_flatMap]
      intro entry _
      obtain ⟨clientId, client⟩ := entry
      rw [forall_pendingIfBlank]
      simp [BlocksBoot]
    · simp
  have hoperator : ∀ item ∈ (if decide (options.includeOperatorEnv ≠ some false) && sentryEnabled env then
      pendingIfBlank env { envRef := "SENTRY_DSN", reason := .sentryDsn } else []), ¬ BlocksBoot item := by
    split
    · rw [forall_pendingIfBlank]
      simp [BlocksBoot]
    · simp
  have hmasterItem : (∀ item ∈ pendingIfBlank env { envRef := config.masterKeyRef, reason := .masterKey }, ¬ BlocksBoot item) ↔
      isBlank (getVar env config.masterKeyRef) = false := by
    rw [forall_pendingIfBlank]
    simp [BlocksBoot]
  have hproviders : (∀ item ∈ config.gateway.providers.entries.flatMap fun (instanceId, provider) =>
      pendingOfProvider env instanceId provider, ¬ BlocksBoot item) ↔
      (∀ ref ∈ requiredKeyRefs config.gateway, isBlank (getVar env ref) = false) ∧
        ∀ ref ∈ requiredBaseUrlRefs config.gateway, isBlank (getVar env ref) = false := by
    rw [List.forall_mem_flatMap, forall_requiredKeyRefs, forall_requiredBaseUrlRefs, ← forall₂_and]
    apply forall₂_congr
    intro entry hentry
    exact pendingOfProvider_iff (hrows entry hentry)
  unfold collectPendingSecrets requiredRefs
  simp only [List.forall_mem_append, List.forall_mem_cons, if_pos hmaster]
  rw [← hproviders, ← hmasterItem]
  constructor
  · intro h
    exact h.1.1
  · intro h
    exact ⟨⟨h, hclients⟩, hoperator⟩

end Gate

/-! ## What is read -/

section Reading
variable {env : PlainEnv} {ref value : String}

/-- An entry is a line of the file. -/
theorem newline_not_mem_entry {entry : String × String} (h : entry ∈ env.vars.entries) :
    '\n' ∉ assignment entry.1 ++ entry.2.toList := by
  have hmem : assignment entry.1 ++ entry.2.toList ∈ Lines.readLines env.text := by
    rw [env.lines_eq]
    exact List.mem_map_of_mem h
  exact Lines.newline_not_mem_readLines hmem

/-- A name in the file is the name of a variable. -/
theorem isEnvName_of_mem {entry : String × String} (h : entry ∈ env.vars.entries) : IsEnvName entry.1 := by
  have hline := newline_not_mem_entry h
  exact ⟨env.no_eq entry h, fun hmem => hline (by simp [assignment, hmem])⟩

/-- A reference without a `=` is read alike on both sides. -/
theorem getVar_eq_get? (href : '=' ∉ ref.toList) : getVar env.text ref = (env.vars.get? ref).map String.toList := by
  have hassigns : ∀ entry ∈ env.vars.entries,
      assigns ref (assignment entry.1 ++ entry.2.toList) = decide (entry.1 = ref) := by
    intro entry hentry
    have hname := isEnvName_of_mem hentry
    by_cases heq : entry.1 = ref
    · rw [← heq, assigns_assignment, decide_eq_true rfl]
    · rw [decide_eq_false heq]
      by_contra hassigns
      have hbreak := newline_not_mem_key (newline_not_mem_entry hentry) (by simpa using hassigns)
      exact heq (assigns_unique hname ⟨href, hbreak⟩ (assigns_assignment entry.1 _) (by simpa using hassigns))
  have hfind : ∀ entries : List (String × String), (∀ entry ∈ entries,
      assigns ref (assignment entry.1 ++ entry.2.toList) = decide (entry.1 = ref)) →
      ((entries.map fun (name, value) => assignment name ++ value.toList).find? (assigns ref)).map (assigned ref) =
        ((entries.find? fun entry => entry.1 = ref).map Prod.snd).map String.toList := by
    intro entries h
    induction entries with
    | nil => rfl
    | cons entry entries ih =>
      obtain ⟨hentry, hrest⟩ := List.forall_mem_cons.mp h
      by_cases heq : entry.1 = ref
      · subst heq
        simp [assigns_assignment, assigned_assignment]
      · simpa [List.find?_cons, hentry, heq] using ih hrest
  rw [getVar, env.lines_eq]
  exact hfind env.vars.entries hassigns

theorem get?_of_eq_mem (href : '=' ∈ ref.toList) : env.vars.get? ref = none := by
  cases hget : env.vars.get? ref with
  | none => rfl
  | some value => exact absurd href (env.no_eq (ref, value) (JsMap.mem_entries.mpr hget))

theorem isBlank_iff (href : '=' ∉ ref.toList) :
    isBlank (getVar env.text ref) = false ↔ (given env.vars ref).isSome = true := by
  rw [getVar_eq_get? href, given]
  cases env.vars.get? ref with
  | none => simp [isBlank]
  | some value =>
    rw [Option.map_some, Option.map_some, JsString.truthy_some]
    by_cases hblank : JsString.trim value = ""
    · simp [isBlank, hblank]
    · simp [isBlank, hblank]

/-- What the boot is given is not blank for the gate. -/
theorem isBlank_of_given (h : (given env.vars ref).isSome = true) : isBlank (getVar env.text ref) = false := by
  by_cases href : '=' ∈ ref.toList
  · rw [given, get?_of_eq_mem href] at h
    cases h
  · exact (isBlank_iff href).mpr h

/-- The boot goes on when every required variable has a value and every base URL is a URL of the web. -/
theorem boot_iff {url : UrlParser} {config : CliConfig} (haccepted : config.accepted = true) :
    (assertMasterKeyPresent config.masterKeyRef env.vars = .ok () ∧
      assertEnabledProviderSecretsPresent url config.gateway env.vars = .ok ()) ↔
    (∀ ref ∈ requiredRefs config, (given env.vars ref).isSome = true) ∧
      ∀ ref ∈ requiredBaseUrlRefs config.gateway, ∀ raw, given env.vars ref = some raw → IsHttpUrl url raw := by
  have hgateway : config.gateway.accepted = true := by
    simp only [CliConfig.accepted, Bool.and_eq_true] at haccepted
    exact haccepted.1.2
  -- that a value is there is part of the condition on a base URL
  have hurl : (∀ ref ∈ requiredBaseUrlRefs config.gateway, ∃ raw, given env.vars ref = some raw ∧ IsHttpUrl url raw) ↔
      (∀ ref ∈ requiredBaseUrlRefs config.gateway, (given env.vars ref).isSome = true) ∧
      ∀ ref ∈ requiredBaseUrlRefs config.gateway, ∀ raw, given env.vars ref = some raw → IsHttpUrl url raw := by
    rw [← forall₂_and]
    apply forall₂_congr
    intro ref _
    cases given env.vars ref with
    | none => simp
    | some raw => simp
  rw [assertMasterKeyPresent_iff, assertEnabledProviderSecretsPresent_iff hgateway, requiredRefs, List.forall_mem_cons,
    List.forall_mem_append, hurl, and_assoc, and_assoc]

end Reading

/-- The gate and the boot agree exactly when both turn the file away, or every base URL is a URL
of the web and no reference that the boot reads has a `=` in it. -/
theorem gate_agrees_iff (url : UrlParser) (config : CliConfig) (haccepted : config.accepted = true) (env : PlainEnv)
    (options : PendingOptions) (hmaster : options.includeMasterKey ≠ some false) :
    ((∀ item ∈ collectPendingSecrets config env.text options, ¬ BlocksBoot item) ↔
      assertMasterKeyPresent config.masterKeyRef env.vars = .ok () ∧
        assertEnabledProviderSecretsPresent url config.gateway env.vars = .ok ()) ↔
    (∃ ref ∈ requiredRefs config, isBlank (getVar env.text ref) = true) ∨
      ((∀ ref ∈ requiredRefs config, '=' ∉ ref.toList) ∧
        ∀ ref ∈ requiredBaseUrlRefs config.gateway, ∀ raw, given env.vars ref = some raw → IsHttpUrl url raw) := by
  rw [gate_clean_iff haccepted hmaster, boot_iff haccepted]
  by_cases hblank : ∃ ref ∈ requiredRefs config, isBlank (getVar env.text ref) = true
  · -- both turn it away
    refine iff_of_true (iff_of_false ?_ ?_) (.inl hblank)
    · intro hclean
      obtain ⟨ref, href, h⟩ := hblank
      rw [hclean ref href] at h
      cases h
    · intro hgiven
      obtain ⟨ref, href, h⟩ := hblank
      rw [isBlank_of_given (hgiven.1 ref href)] at h
      cases h
  · -- the gate says ready, and it is the boot that decides
    have hclean : ∀ ref ∈ requiredRefs config, isBlank (getVar env.text ref) = false := by
      intro ref href
      by_contra h
      exact hblank ⟨ref, href, by simpa using h⟩
    rw [iff_true_left hclean, or_iff_right hblank]
    apply and_congr_left
    intro _
    apply forall₂_congr
    intro ref href
    constructor
    · intro hgiven hmem
      rw [given, get?_of_eq_mem hmem] at hgiven
      cases hgiven
    · intro hmem
      exact (isBlank_iff hmem).mp (hclean ref href)

/-- An instance with a key and one with a base URL, both in use. -/
def twoSecrets : CliConfig where
  masterKeyRef := "MASTER_KEY"
  gateway :=
    { providers := ⟨[("anthropic", ⟨.anthropic, "ANTHROPIC_API_KEY", true, none, false⟩),
        ("local", ⟨.openaiCompatible, "LOCAL_API_KEY", true, some "LOCAL_BASE_URL", false⟩)], by decide⟩
      models := ⟨[("claude", ⟨"anthropic", "claude-sonnet-4-5", none, ⟨none, none, none⟩, plainPolicy⟩),
        ("llama", ⟨"local", "llama-3", none, ⟨none, none, none⟩, plainPolicy⟩)], by decide⟩ }
  clients := oneClient.config.clients

theorem twoSecrets_accepted : twoSecrets.accepted = true := by decide +kernel

/-- The variables of the two instances, with what is given as a base URL. -/
def twoSecretsVars (baseUrl : String) : ProcessEnv :=
  ⟨[("MASTER_KEY", "mk"), ("ANTHROPIC_API_KEY", "sk"), ("LOCAL_BASE_URL", baseUrl)], by simp⟩

theorem colon_mem_of_https {raw : String} (h : JsString.startsWith raw "https://" = true) : ':' ∈ raw.toList :=
  (of_decide_eq_true h).subset (by decide)

/-- `new URL` on the texts below. -/
def webUrl : UrlParser where
  protocol raw := if JsString.startsWith raw "https://" then some "https:" else none
  colon_mem _ _ h := colon_mem_of_https (Option.ite_none_right_eq_some.mp h).1

theorem gate_agrees_twoSecrets :
    (∀ item ∈ collectPendingSecrets twoSecrets (PlainEnv.ofVars (twoSecretsVars "https://api.example.com/v1") (by decide)).text {},
        ¬ BlocksBoot item) ↔
      assertMasterKeyPresent "MASTER_KEY" (twoSecretsVars "https://api.example.com/v1") = .ok () ∧
        assertEnabledProviderSecretsPresent webUrl twoSecrets.gateway (twoSecretsVars "https://api.example.com/v1") = .ok () := by
  refine (gate_agrees_iff webUrl twoSecrets twoSecrets_accepted (PlainEnv.ofVars _ (by decide)) {} (by decide)).mpr
    (.inr ⟨by decide, ?_⟩)
  have hrefs : requiredBaseUrlRefs twoSecrets.gateway = ["LOCAL_BASE_URL"] := by decide
  have hgiven : given (twoSecretsVars "https://api.example.com/v1") "LOCAL_BASE_URL" = some "https://api.example.com/v1" := by
    decide
  intro ref href raw hraw
  rw [hrefs, List.mem_singleton] at href
  subst href
  obtain rfl := Option.some.inj (hgiven.symm.trans hraw)
  exact .inr (by decide)

/-- A base URL without a scheme: nothing is pending, and the boot throws. -/
theorem base_url_not_pending :
    twoSecrets.accepted = true ∧
    ∃ env : PlainEnv, env.vars = twoSecretsVars "api.example.com/v1" ∧
      collectPendingSecrets twoSecrets env.text {} = [] ∧
      assertEnabledProviderSecretsPresent webUrl twoSecrets.gateway env.vars =
        .error (.message ("[GatewayConfig] Missing or invalid base URL for enabled provider instance \"local\" " ++
          "(expected valid http(s) URL in env LOCAL_BASE_URL)")) ∧
      ¬ ((∀ item ∈ collectPendingSecrets twoSecrets env.text {}, ¬ BlocksBoot item) ↔
        assertMasterKeyPresent twoSecrets.masterKeyRef env.vars = .ok () ∧
          assertEnabledProviderSecretsPresent webUrl twoSecrets.gateway env.vars = .ok ()) := by
  have hgate : collectPendingSecrets twoSecrets
      (PlainEnv.ofVars (twoSecretsVars "api.example.com/v1") (by decide)).text {} = [] := by decide +kernel
  have hboot : assertEnabledProviderSecretsPresent webUrl twoSecrets.gateway (twoSecretsVars "api.example.com/v1") =
      .error (.message ("[GatewayConfig] Missing or invalid base URL for enabled provider instance \"local\" " ++
        "(expected valid http(s) URL in env LOCAL_BASE_URL)")) := by decide +kernel
  refine ⟨twoSecrets_accepted, PlainEnv.ofVars (twoSecretsVars "api.example.com/v1") (by decide), rfl, hgate, hboot, ?_⟩
  intro hagree
  have hok := (hagree.mp (by simp [hgate])).2
  rw [show (PlainEnv.ofVars (twoSecretsVars "api.example.com/v1") _).vars = twoSecretsVars "api.example.com/v1" from rfl,
    hboot] at hok
  cases hok

end AiGateway.Cli
