import AiGateway.Config.Clients
import AiGateway.Lib.JsMap
import AiGateway.Lib.Json

/- The `providers` and `models` of a gateway configuration: what `GatewayConfigSchema` accepts
   (the `clients` are in `Config.Clients`), and the effective configuration that
   `buildEffectiveGatewayConfig` makes of it. A value here is the schema's output, with its
   defaults filled in. -/
namespace AiGateway

/-! ## Property lookup -/

/-- The members that every plain object inherits. -/
def objectPrototypeMembers : List String :=
  ["constructor", "__defineGetter__", "__defineSetter__", "hasOwnProperty", "__lookupGetter__", "__lookupSetter__",
    "isPrototypeOf", "propertyIsEnumerable", "toString", "valueOf", "__proto__", "toLocaleString"]

/-- What `object[name]` finds: an own entry, a member of `Object.prototype` (truthy, and without
any of the fields read below), or nothing. -/
inductive Property (α : Type) where
  | own (value : α)
  | inherited
  | missing

def property {α : Type} (object : JsMap String α) (name : String) : Property α :=
  match object.get? name with
  | some value => .own value
  | none => if name ∈ objectPrototypeMembers then .inherited else .missing

section Lookup
variable {α : Type} {object : JsMap String α} {name other : String} {value : α}

theorem property_of_get? (h : object.get? name = some value) : property object name = .own value := by
  unfold property
  rw [h]

theorem property_of_not_own (h : object.get? name = none) :
    property object name = if name ∈ objectPrototypeMembers then .inherited else .missing := by
  unfold property
  rw [h]

theorem get?_of_missing (h : property object name = .missing) : object.get? name = none := by
  unfold property at h
  split at h
  · cases h
  · assumption

theorem property_set_missing :
    property (object.set name value) other = .missing ↔ other ≠ name ∧ property object other = .missing := by
  unfold property
  by_cases hsame : other = name
  · subst hsame
    rw [JsMap.get?_set_self]
    simp
  · rw [JsMap.get?_set_ne _ _ hsame]
    simp [hsame]

end Lookup

/-! ## The data -/

/-- `PROVIDER_TYPES`. -/
inductive ProviderType where
  | anthropic | google | openai | openaiCompatible
  deriving DecidableEq, Repr

def ProviderType.text : ProviderType → String
  | .anthropic => "anthropic"
  | .google => "google"
  | .openai => "openai"
  | .openaiCompatible => "openai-compatible"

def isOpenAiProviderType (type : ProviderType) : Bool := type = .openai || type = .openaiCompatible

structure ProviderRow where
  type : ProviderType
  apiKeyRef : String
  enabled : Bool
  baseUrlRef : Option String
  apiSurface : Bool           -- given; `chat-completions` is its only value
  deriving DecidableEq, Repr

structure GatewayCapabilities where
  streaming : Option Bool
  tools : Option Bool
  thinking : Option Bool
  deriving DecidableEq, Repr

/-- `MaxAttempts`, by its brand. -/
abbrev MaxAttempts := { n : ℕ // 1 ≤ n ∧ n ≤ 5 }

structure GatewayRetry where
  maxAttempts : Option MaxAttempts
  onStatus : Option (List ℕ)

structure ParamDefaults where
  temperature : Option Json.Number := none
  maxOutputTokens : Option Json.Number := none
  topP : Option Json.Number := none
  frequencyPenalty : Option Json.Number := none
  presencePenalty : Option Json.Number := none
  seed : Option Json.Number := none
  thinkingEnabled : Option Bool := none

structure ParamRange where
  min : Json.Number
  max : Json.Number

structure ParamBounds where
  temperature : Option ParamRange := none
  maxOutputTokens : Option ParamRange := none
  topP : Option ParamRange := none
  frequencyPenalty : Option ParamRange := none
  presencePenalty : Option ParamRange := none

structure GatewayParams where
  defaults : ParamDefaults
  allowOverrides : List String
  bounds : ParamBounds

structure GatewayPolicy where
  timeoutMs : Option ℕ
  retry : GatewayRetry
  params : GatewayParams

structure GatewayModelConfig where
  providerInstance : String
  modelId : String
  fallback : Option String
  capabilities : GatewayCapabilities
  policy : GatewayPolicy

structure GatewayConfig where
  providers : JsMap String ProviderRow
  models : JsMap String GatewayModelConfig

/-! ## `GatewayConfigSchema` -/

def within (low high : ℚ) (n : Json.Number) : Bool := low ≤ n.value && n.value ≤ high

/-- `int()`: a safe integer. -/
def isInteger (n : Json.Number) : Bool := n.value.den = 1 && n.value.num.natAbs ≤ maxSafeInteger

def ParamDefaults.accepted (d : ParamDefaults) : Bool :=
  d.temperature.all (within 0 2) &&
    d.maxOutputTokens.all (fun n => isInteger n && 1 ≤ n.value) &&
    d.topP.all (within 0 1) &&
    d.frequencyPenalty.all (within (-2) 2) &&
    d.presencePenalty.all (within (-2) 2) &&
    d.seed.all isInteger

def ParamBounds.accepted (b : ParamBounds) : Bool :=
  b.temperature.all (fun r => 0 ≤ r.min.value && r.max.value ≤ 2) &&
    b.maxOutputTokens.all (fun r => 1 ≤ r.min.value && r.max.value ≤ 8192)

def GatewayPolicy.accepted (p : GatewayPolicy) : Bool :=
  p.timeoutMs.all isPositiveInt && p.retry.onStatus.all (fun statuses => statuses.all isPositiveInt) &&
    p.params.defaults.accepted && p.params.bounds.accepted

def ProviderRow.accepted (row : ProviderRow) : Bool :=
  row.apiKeyRef ≠ "" && row.baseUrlRef.all (fun ref => ref ≠ "") &&
    (!isOpenAiProviderType row.type || row.baseUrlRef.any fun ref => (JsString.trim ref).length ≠ 0) &&
    !(row.type = .openai && row.apiSurface)

/-- The scan of the API key references: `refs` has the instance that was last seen with each. An
instance with an empty id is not seen. -/
def refsAccepted (refs : JsMap String String) : List (String × ProviderRow) → Bool
  | [] => true
  | (instanceId, row) :: rows =>
    (JsString.truthy (refs.get? row.apiKeyRef)).isNone && refsAccepted (refs.set row.apiKeyRef instanceId) rows

/-- A fallback is another alias of the configuration, and not one that falls back to this. -/
def fallbackAccepted (models : JsMap String GatewayModelConfig) (modelAlias : String) (fallback : String) : Bool :=
  fallback ≠ modelAlias &&
    match property models fallback with
    | .own row => row.fallback ≠ some modelAlias
    | .inherited => true
    | .missing => false

def modelAccepted (cfg : GatewayConfig) (modelAlias : String) (row : GatewayModelConfig) : Bool :=
  isRedisSearchTagSafeId modelAlias && row.fallback.all (fun f => f ≠ "") && row.policy.accepted &&
    row.fallback.all (fallbackAccepted cfg.models modelAlias) &&
    (cfg.providers.get? row.providerInstance).isSome

/-- The schema, as far as providers and models go. -/
def GatewayConfig.accepted (cfg : GatewayConfig) : Bool :=
  (cfg.providers.entries.all fun (_, row) => row.accepted) &&
    refsAccepted .empty cfg.providers.entries &&
    (cfg.models.entries.all fun (modelAlias, row) => modelAccepted cfg modelAlias row) &&
    !cfg.models.entries.isEmpty &&
    cfg.providers.entries.all fun (id, row) =>
      !row.enabled || cfg.models.entries.any fun (_, model) => model.providerInstance = id

/-- What is accepted stays so when instances are taken out, before the scan or from what it sees. -/
theorem refsAccepted_sublist {refs refs' : JsMap String String} {rows rows' : List (String × ProviderRow)}
    (hsub : rows'.Sublist rows)
    (hseen : ∀ ref, (JsString.truthy (refs.get? ref)).isNone = true → (JsString.truthy (refs'.get? ref)).isNone = true)
    (h : refsAccepted refs rows = true) : refsAccepted refs' rows' = true := by
  induction hsub generalizing refs refs' with
  | slnil => rfl
  | cons entry _ ih =>
    rw [refsAccepted, Bool.and_eq_true] at h
    refine ih (fun ref hfree => ?_) h.2
    -- the reference that is no longer set was free before
    by_cases hsame : ref = entry.2.apiKeyRef
    · rw [hsame]
      exact hseen _ h.1
    · rw [JsMap.get?_set_ne _ _ hsame] at hfree
      exact hseen ref hfree
  | cons_cons entry _ ih =>
    rw [refsAccepted, Bool.and_eq_true] at h ⊢
    refine ⟨hseen _ h.1, ih (fun ref hfree => ?_) h.2⟩
    by_cases hsame : ref = entry.2.apiKeyRef
    · rw [hsame, JsMap.get?_set_self] at hfree ⊢
      exact hfree
    · rw [JsMap.get?_set_ne _ _ hsame] at hfree ⊢
      exact hseen ref hfree

/-- Where every instance has an id, the references are to be distinct. -/
theorem refsAccepted_iff {refs : JsMap String String} {rows : List (String × ProviderRow)}
    (hrefs : ∀ ref instanceId, refs.get? ref = some instanceId → instanceId ≠ "")
    (hids : ∀ entry ∈ rows, entry.1 ≠ "") :
    refsAccepted refs rows = true ↔
      (∀ entry ∈ rows, refs.get? entry.2.apiKeyRef = none) ∧ (rows.map fun (_, row) => row.apiKeyRef).Nodup := by
  induction rows generalizing refs with
  | nil => simp [refsAccepted]
  | cons entry rows ih =>
    obtain ⟨instanceId, row⟩ := entry
    rw [List.forall_mem_cons] at hids
    obtain ⟨hid, hids⟩ := hids
    -- `if (prev)`: an earlier instance whose id is empty would be passed over.
    have hseen : (JsString.truthy (refs.get? row.apiKeyRef)).isNone = true ↔ refs.get? row.apiKeyRef = none := by
      cases hget : refs.get? row.apiKeyRef with
      | none => exact iff_of_true rfl rfl
      | some seen => simp [JsString.truthy_some, hrefs _ _ hget]
    have hset : ∀ ref id, (refs.set row.apiKeyRef instanceId).get? ref = some id → id ≠ "" := by
      intro ref id hget
      by_cases hsame : ref = row.apiKeyRef
      · rw [hsame, JsMap.get?_set_self] at hget
        cases hget
        exact hid
      · rw [JsMap.get?_set_ne _ _ hsame] at hget
        exact hrefs ref id hget
    have hrest : (∀ entry ∈ rows, (refs.set row.apiKeyRef instanceId).get? entry.2.apiKeyRef = none) ↔
        (∀ entry ∈ rows, entry.2.apiKeyRef ≠ row.apiKeyRef) ∧ ∀ entry ∈ rows, refs.get? entry.2.apiKeyRef = none := by
      rw [← forall₂_and]
      apply forall₂_congr
      intro entry _
      by_cases hsame : entry.2.apiKeyRef = row.apiKeyRef
      · simp [hsame, JsMap.get?_set_self]
      · simp [hsame, JsMap.get?_set_ne]
    have hfresh : row.apiKeyRef ∉ rows.map (fun (_, row) => row.apiKeyRef) ↔
        ∀ entry ∈ rows, entry.2.apiKeyRef ≠ row.apiKeyRef := by
      simp [List.mem_map]
    rw [refsAccepted, Bool.and_eq_true, hseen, ih hset hids, hrest, List.map_cons, List.nodup_cons, hfresh,
      List.forall_mem_cons]
    tauto

theorem refsAccepted_empty_iff {rows : List (String × ProviderRow)} (hids : ∀ entry ∈ rows, entry.1 ≠ "") :
    refsAccepted .empty rows = true ↔ (rows.map fun (_, row) => row.apiKeyRef).Nodup := by
  have hnone : ∀ ref instanceId, (JsMap.empty : JsMap String String).get? ref = some instanceId → instanceId ≠ "" := by
    intro ref instanceId hget
    rw [JsMap.get?_empty] at hget
    cases hget
  rw [refsAccepted_iff hnone hids]
  exact and_iff_right fun _ _ => JsMap.get?_empty _

/-! ## The effective configuration -/

/-- The entries that a test keeps. -/
def keepEntries {α : Type} (object : JsMap String α) (keep : α → Bool) : JsMap String α where
  entries := object.entries.filter fun (_, value) => keep value
  nodup := (List.filter_sublist.map Prod.fst).nodup object.nodup

theorem get?_keepEntries {α : Type} {object : JsMap String α} {keep : α → Bool} {name : String} {value : α} :
    (keepEntries object keep).get? name = some value ↔ object.get? name = some value ∧ keep value = true := by
  rw [← JsMap.mem_entries, ← JsMap.mem_entries]
  exact List.mem_filter

def modelActive (cfg : GatewayConfig) (row : GatewayModelConfig) : Bool :=
  match property cfg.providers row.providerInstance with
  | .own provider => provider.enabled
  | .inherited => true
  | .missing => false

def noActiveModelsMessage : String :=
  "[GatewayConfig] No active models after applying enabled flags; enable a provider used by your models or add " ++
    "models for an enabled provider."

def idleProviderMessage (instanceId : String) : String :=
  "[GatewayConfig] Enabled provider instance \"" ++ instanceId ++ "\" has no active model aliases. Add a model with " ++
    "providerInstance: " ++ instanceId ++ " or set enabled: false on the provider."

/-- `buildEffectiveGatewayConfig`; `secretsError` is what `assertEnabledProviderSecretsPresent`
throws. -/
def buildEffectiveGatewayConfig (raw : GatewayConfig) (secretsError : Option String) : Except String GatewayConfig :=
  let effective : GatewayConfig := ⟨keepEntries raw.providers ProviderRow.enabled, keepEntries raw.models (modelActive raw)⟩
  if effective.models.entries.isEmpty then .error noActiveModelsMessage
  else match effective.providers.entries.find? fun (id, _) =>
      !effective.models.values.any fun model => model.providerInstance = id with
    | some (id, _) => .error (idleProviderMessage id)
    | none =>
      match secretsError with
      | some message => .error message
      | none => .ok effective

end AiGateway
