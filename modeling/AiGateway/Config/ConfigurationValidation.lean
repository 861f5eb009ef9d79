import AiGateway.Config.GatewayConfig
import AiGateway.Lib.Fallible

/- What is asked of the environment at boot: `ConfigurationValidationService` with its rules for
   API keys and base URLs. A reference of the configuration names a variable; a missing variable
   reads as an empty text, and a name every object inherits (`toString`) is found on
   `process.env` too, as something without `trim`.

   `assertEnabledProviderSecretsPresent_iff` says when the boot gets past it. -/
namespace AiGateway

/-- `process.env`: the variables by name. -/
abbrev ProcessEnv := JsMap String String

inductive BootError where
  | typeError                      -- a member of `Object.prototype` has no `trim`
  | message (text : String)
  deriving DecidableEq, Repr

/-- `new URL(raw).protocol`, or nothing where the constructor throws. Without a base URL a text
is read as one only when it starts with a scheme and a colon. -/
structure UrlParser where
  protocol : String → Option String
  colon_mem : ∀ raw p, protocol raw = some p → ':' ∈ raw.toList

/-- `(env[ref] ?? '').trim()`. -/
def readTrimmed (env : ProcessEnv) (ref : String) : Except BootError String :=
  match property env ref with
  | .own value => .ok (JsString.trim value)
  | .inherited => .error .typeError
  | .missing => .ok ""

def missingMasterKeyMessage : String := "[GatewayKey] Missing master key."

def assertMasterKeyPresent (masterKeyRef : String) (env : ProcessEnv) : Except BootError Unit := do
  let masterRaw ← readTrimmed env masterKeyRef
  if masterRaw = "" then .error (.message missingMasterKeyMessage) else .ok ()

def isApiKeyRequiredForProviderType (type : ProviderType) : Bool := !isOpenAiProviderType type

/-- `MissingProviderApiKey` and `MissingProviderBaseUrl`: an instance and the reference that
nothing usable is found under. -/
structure MissingSecret where
  instanceId : String
  ref : String
  deriving DecidableEq, Repr

/-- The rows of `config.providers` that a check finds something missing for. -/
def collectMissing (check : String × ProviderRow → Except BootError (Option MissingSecret)) (config : GatewayConfig) :
    Except BootError (List MissingSecret) :=
  (Fallible.collect check config.providers.entries).map List.reduceOption

/-- The check of one row that looks for a key. -/
def missingApiKey (env : ProcessEnv) (entry : String × ProviderRow) : Except BootError (Option MissingSecret) :=
  if !entry.2.enabled then .ok none
  else if !isApiKeyRequiredForProviderType entry.2.type then .ok none
  else do
    let key ← readTrimmed env entry.2.apiKeyRef
    .ok (if key = "" then some ⟨entry.1, entry.2.apiKeyRef⟩ else none)

def collectMissingEnabledProviderApiKeyErrors (config : GatewayConfig) (env : ProcessEnv) :
    Except BootError (List MissingSecret) := collectMissing (missingApiKey env) config

def formatMissingProviderApiKeyError (entry : MissingSecret) : String :=
  "[GatewayConfig] Missing API key for enabled provider instance \"" ++ entry.instanceId ++ "\" (expected non-empty env " ++
    entry.ref ++ ")"

/-- `if (missing.length === 0) return; throw new Error(format(missing[0]))`. -/
def assertNoneMissing (format : MissingSecret → String) : List MissingSecret → Except BootError Unit
  | [] => .ok ()
  | entry :: _ => .error (.message (format entry))

def assertEnabledProviderApiKeysPresent (config : GatewayConfig) (env : ProcessEnv) : Except BootError Unit := do
  let missing ← collectMissingEnabledProviderApiKeyErrors config env
  assertNoneMissing formatMissingProviderApiKeyError missing

/-- `raw.replace(/\/$/, '')`. -/
def dropFinalSlash (raw : String) : String :=
  if raw.toList.getLast? = some '/' then String.ofList raw.toList.dropLast else raw

section Url
variable (url : UrlParser)

def resolveBaseUrlFromEnv (baseUrlRef : Option String) (env : ProcessEnv) : Except BootError String :=
  match baseUrlRef with
  | none => .ok ""
  | some ref =>
    if JsString.trim ref = "" then .ok ""
    else do
      let raw ← readTrimmed env ref
      if raw = "" then .ok ""
      else match url.protocol raw with
        | none => .ok ""
        | some protocol => .ok (if protocol ≠ "http:" ∧ protocol ≠ "https:" then "" else dropFinalSlash raw)

/-- The check of one row that looks for a base URL. -/
def missingBaseUrl (env : ProcessEnv) (entry : String × ProviderRow) : Except BootError (Option MissingSecret) :=
  if !entry.2.enabled then .ok none
  else if !isOpenAiProviderType entry.2.type then .ok none
  else match entry.2.baseUrlRef with
    | none => .ok none
    | some ref =>
      if JsString.trim ref = "" then .ok none
      else do
        let resolved ← resolveBaseUrlFromEnv url (some ref) env
        .ok (if resolved = "" then some ⟨entry.1, ref⟩ else none)

def collectMissingBaseUrlErrors (config : GatewayConfig) (env : ProcessEnv) : Except BootError (List MissingSecret) :=
  collectMissing (missingBaseUrl url env) config

def formatMissingBaseUrlError (entry : MissingSecret) : String :=
  "[GatewayConfig] Missing or invalid base URL for enabled provider instance \"" ++ entry.instanceId ++
    "\" (expected valid http(s) URL in env " ++ entry.ref ++ ")"

def assertEnabledProviderBaseUrlPresent (config : GatewayConfig) (env : ProcessEnv) : Except BootError Unit := do
  let missing ← collectMissingBaseUrlErrors url config env
  assertNoneMissing formatMissingBaseUrlError missing

def assertEnabledProviderSecretsPresent (config : GatewayConfig) (env : ProcessEnv) : Except BootError Unit := do
  assertEnabledProviderApiKeysPresent config env
  assertEnabledProviderBaseUrlPresent url config env

def validateParsedGatewayConfig (masterKeyRef : String) (config : GatewayConfig) (env : ProcessEnv) : Except BootError Unit := do
  assertMasterKeyPresent masterKeyRef env
  assertEnabledProviderSecretsPresent url config env

end Url

/-! ## When the boot goes on -/

/-- The references of the API keys that the enabled providers need. -/
def requiredKeyRefs (config : GatewayConfig) : List String :=
  (config.providers.values.filter fun row => row.enabled && isApiKeyRequiredForProviderType row.type).map ProviderRow.apiKeyRef

/-- The base URL references of the enabled providers of an OpenAI type. -/
def requiredBaseUrlRefs (config : GatewayConfig) : List String :=
  (config.providers.values.filter fun row => row.enabled && isOpenAiProviderType row.type).filterMap ProviderRow.baseUrlRef

/-- What a variable holds, trimmed, when that is not empty. -/
def given (env : ProcessEnv) (ref : String) : Option String := JsString.truthy ((env.get? ref).map JsString.trim)

/-- The text is a URL of the web. -/
def IsHttpUrl (url : UrlParser) (raw : String) : Prop := url.protocol raw = some "http:" ∨ url.protocol raw = some "https:"

section Boot
variable {url : UrlParser} {env : ProcessEnv} {config : GatewayConfig} {ref raw : String}

theorem forall_requiredKeyRefs {P : String → Prop} : (∀ ref ∈ requiredKeyRefs config, P ref) ↔
    ∀ entry ∈ config.providers.entries,
      (entry.2.enabled && isApiKeyRequiredForProviderType entry.2.type) = true → P entry.2.apiKeyRef := by
  unfold requiredKeyRefs JsMap.values
  rw [List.forall_mem_map, List.forall_mem_filter, List.forall_mem_map]

theorem forall_requiredBaseUrlRefs {P : String → Prop} : (∀ ref ∈ requiredBaseUrlRefs config, P ref) ↔
    ∀ entry ∈ config.providers.entries,
      (entry.2.enabled && isOpenAiProviderType entry.2.type) = true → ∀ ref ∈ entry.2.baseUrlRef, P ref := by
  unfold requiredBaseUrlRefs JsMap.values
  rw [List.forall_mem_filterMap, List.forall_mem_filter, List.forall_mem_map]
  exact Iff.rfl

theorem readTrimmed_given : (∃ text, readTrimmed env ref = .ok text ∧ JsString.truthy (some text) = some raw) ↔
    given env ref = some raw := by
  unfold readTrimmed given property
  cases hget : env.get? ref with
  | some value => simp
  | none =>
    by_cases hmem : ref ∈ objectPrototypeMembers
    · simp [hmem]
    · simp [hmem, JsString.truthy]

theorem assertMasterKeyPresent_iff : assertMasterKeyPresent ref env = .ok () ↔ (given env ref).isSome = true := by
  rw [assertMasterKeyPresent, Fallible.bind_eq_ok, Option.isSome_iff_exists]
  simp only [← readTrimmed_given]
  rw [exists_comm]
  apply exists_congr
  intro text
  by_cases htext : text = ""
  · simp [htext, JsString.truthy]
  · simp [htext, JsString.truthy_some]

theorem assertNoneMissing_iff {format : MissingSecret → String} {missing : List MissingSecret} :
    assertNoneMissing format missing = .ok () ↔ missing = [] := by
  cases missing with
  | nil => simp [assertNoneMissing]
  | cons entry rest => simp [assertNoneMissing]

/-- Nothing is missing when no row's check finds something missing. -/
theorem noneMissing_iff {check : String × ProviderRow → Except BootError (Option MissingSecret)}
    {format : MissingSecret → String} :
    (collectMissing check config >>= assertNoneMissing format) = .ok () ↔
      ∀ entry ∈ config.providers.entries, check entry = .ok none := by
  rw [Fallible.bind_eq_ok]
  simp only [assertNoneMissing_iff, exists_eq_right]
  exact Fallible.collect_reduceOption_eq_nil_iff

theorem missingApiKey_iff {entry : String × ProviderRow} : missingApiKey env entry = .ok none ↔
    ((entry.2.enabled && isApiKeyRequiredForProviderType entry.2.type) = true →
      (given env entry.2.apiKeyRef).isSome = true) := by
  unfold missingApiKey
  cases entry.2.enabled with
  | false => simp
  | true =>
    cases isApiKeyRequiredForProviderType entry.2.type with
    | false => simp
    | true =>
      rw [← assertMasterKeyPresent_iff, assertMasterKeyPresent, Fallible.bind_eq_ok]
      simp only [Bool.not_true, Bool.false_eq_true, if_false, Bool.and_self, true_implies, Fallible.bind_eq_ok]
      apply exists_congr
      intro key
      by_cases hkey : key = ""
      · simp [hkey]
      · simp [hkey]

theorem assertEnabledProviderApiKeysPresent_iff : assertEnabledProviderApiKeysPresent config env = .ok () ↔
    ∀ ref ∈ requiredKeyRefs config, (given env ref).isSome = true := by
  unfold assertEnabledProviderApiKeysPresent collectMissingEnabledProviderApiKeyErrors
  rw [noneMissing_iff, forall_requiredKeyRefs]
  apply forall₂_congr
  intro entry _
  exact missingApiKey_iff

theorem dropFinalSlash_ne_empty (h : ':' ∈ raw.toList) : dropFinalSlash raw ≠ "" := by
  unfold dropFinalSlash
  split
  · next hlast =>
    obtain ⟨start, hstart⟩ := List.getLast?_eq_some_iff.mp hlast
    rw [hstart, List.dropLast_concat]
    rw [hstart] at h
    intro hempty
    have hnil : start = [] := by simpa using congrArg String.toList hempty
    rw [hnil] at h
    simp at h
  · intro hempty
    rw [hempty] at h
    simp at h

/-- A base URL is found where the variable holds a URL of the web. -/
theorem resolveBaseUrlFromEnv_iff (href : JsString.trim ref ≠ "") :
    (∃ resolved, resolveBaseUrlFromEnv url (some ref) env = .ok resolved ∧ resolved ≠ "") ↔
      ∃ raw, given env ref = some raw ∧ IsHttpUrl url raw := by
  have hresolved : ∀ raw, (∃ resolved, (if raw = "" then (.ok "" : Except BootError String)
      else match url.protocol raw with
        | none => .ok ""
        | some protocol => .ok (if protocol ≠ "http:" ∧ protocol ≠ "https:" then "" else dropFinalSlash raw)) =
          .ok resolved ∧ resolved ≠ "") ↔ raw ≠ "" ∧ IsHttpUrl url raw := by
    intro raw
    unfold IsHttpUrl
    by_cases hraw : raw = ""
    · simp [hraw]
    · rw [if_neg hraw]
      cases hprotocol : url.protocol raw with
      | none => simp
      | some protocol =>
        -- A URL with a protocol has a colon, so that more than its final slash is left.
        have hslash := dropFinalSlash_ne_empty (url.colon_mem raw protocol hprotocol)
        by_cases hhttp : protocol = "http:"
        · simp [hhttp, hraw, hslash]
        · simp [hhttp, hraw, hslash]
  simp only [← readTrimmed_given, resolveBaseUrlFromEnv, if_neg href, Fallible.bind_eq_ok]
  constructor
  · intro h
    obtain ⟨resolved, ⟨raw, hraw, hok⟩, hne⟩ := h
    obtain ⟨hne, hhttp⟩ := (hresolved raw).mp ⟨resolved, hok, hne⟩
    exact ⟨raw, ⟨raw, hraw, by rw [JsString.truthy_some, if_neg hne]⟩, hhttp⟩
  · intro h
    obtain ⟨raw, ⟨text, htext, htruthy⟩, hhttp⟩ := h
    obtain ⟨hsame, hne⟩ := JsString.truthy_eq_some htruthy
    obtain rfl := Option.some.inj hsame
    obtain ⟨resolved, hok, hne'⟩ := (hresolved text).mpr ⟨hne, hhttp⟩
    exact ⟨resolved, ⟨text, htext, hok⟩, hne'⟩

theorem missingBaseUrl_iff {entry : String × ProviderRow} (haccepted : entry.2.accepted = true) :
    missingBaseUrl url env entry = .ok none ↔
      ((entry.2.enabled && isOpenAiProviderType entry.2.type) = true →
        ∀ ref ∈ entry.2.baseUrlRef, ∃ raw, given env ref = some raw ∧ IsHttpUrl url raw) := by
  unfold missingBaseUrl
  cases entry.2.enabled with
  | false => simp
  | true =>
    cases htype : isOpenAiProviderType entry.2.type with
    | false => simp
    | true =>
      -- the schema asks the type for a reference that is not blank
      have hblank : ∃ ref, entry.2.baseUrlRef = some ref ∧ JsString.trim ref ≠ "" := by
        simp only [ProviderRow.accepted, htype, Bool.and_eq_true, Bool.not_true, Bool.false_or] at haccepted
        cases href : entry.2.baseUrlRef with
        | none => simp [href] at haccepted
        | some ref =>
          refine ⟨ref, rfl, ?_⟩
          intro hempty
          simp [href, hempty] at haccepted
      obtain ⟨ref, href, hne⟩ := hblank
      rw [href]
      simp only [Bool.not_true, Bool.false_eq_true, if_false, if_neg hne, Bool.and_self, true_implies, Option.mem_def,
        Option.some.injEq, forall_eq', ← resolveBaseUrlFromEnv_iff hne, Fallible.bind_eq_ok]
      apply exists_congr
      intro resolved
      by_cases hresolved : resolved = ""
      · simp [hresolved]
      · simp [hresolved]

theorem assertEnabledProviderBaseUrlPresent_iff (haccepted : config.accepted = true) :
    assertEnabledProviderBaseUrlPresent url config env = .ok () ↔
      ∀ ref ∈ requiredBaseUrlRefs config, ∃ raw, given env ref = some raw ∧ IsHttpUrl url raw := by
  unfold assertEnabledProviderBaseUrlPresent collectMissingBaseUrlErrors
  rw [noneMissing_iff, forall_requiredBaseUrlRefs]
  apply forall₂_congr
  intro entry hentry
  apply missingBaseUrl_iff
  simp only [GatewayConfig.accepted, Bool.and_eq_true] at haccepted
  exact List.all_eq_true.mp haccepted.1.1.1.1 entry hentry

/-- The boot goes on when every required variable is there and the base URLs are URLs of the web. -/
theorem assertEnabledProviderSecretsPresent_iff (haccepted : config.accepted = true) :
    assertEnabledProviderSecretsPresent url config env = .ok () ↔
      (∀ ref ∈ requiredKeyRefs config, (given env ref).isSome = true) ∧
        ∀ ref ∈ requiredBaseUrlRefs config, ∃ raw, given env ref = some raw ∧ IsHttpUrl url raw := by
  rw [assertEnabledProviderSecretsPresent, Fallible.bind_eq_ok, ← assertEnabledProviderApiKeysPresent_iff,
    ← assertEnabledProviderBaseUrlPresent_iff haccepted]
  constructor
  · intro ⟨(), hkeys, hurls⟩
    exact ⟨hkeys, hurls⟩
  · intro ⟨hkeys, hurls⟩
    exact ⟨(), hkeys, hurls⟩

theorem validateParsedGatewayConfig_iff {masterKeyRef : String} :
    validateParsedGatewayConfig url masterKeyRef config env = .ok () ↔
      assertMasterKeyPresent masterKeyRef env = .ok () ∧ assertEnabledProviderSecretsPresent url config env = .ok () := by
  rw [validateParsedGatewayConfig, Fallible.bind_eq_ok]
  constructor
  · intro ⟨(), hmaster, hsecrets⟩
    exact ⟨hmaster, hsecrets⟩
  · intro ⟨hmaster, hsecrets⟩
    exact ⟨(), hmaster, hsecrets⟩

end Boot

end AiGateway
