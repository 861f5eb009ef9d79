import AiGateway.Config.GatewayConfig
import AiGateway.Lib.Chain

/- The fallbacks of a configuration as a graph. `GatewayConfigSchema` looks at each alias, its
   fallback and the fallback of that: a loop of one or two aliases is refused.

   `fallback_acyclic_iff`: in an accepted configuration no chain of fallbacks comes back if and
   only if there is no ring of three or more aliases. `fallback_ring_accepted` is such a ring. -/
namespace AiGateway

/-- `models[alias].fallback`; a member of `Object.prototype` has none. -/
def fallbackOf (models : JsMap String GatewayModelConfig) (modelAlias : String) : Option String :=
  match property models modelAlias with
  | .own row => row.fallback
  | .inherited => none
  | .missing => none

/-- Following `fallback` from any alias never returns to one already visited. -/
def FallbackAcyclic (models : JsMap String GatewayModelConfig) : Prop := Chain.NeverReturns (fallbackOf models)

/-- Distinct aliases, each the fallback of the one before it and the first that of the last. -/
def FallbackRing (models : JsMap String GatewayModelConfig) (ring : List String) : Prop :=
  Chain.Ring (fallbackOf models) ring

theorem fallbackOf_eq_some {models : JsMap String GatewayModelConfig} {modelAlias fallback : String}
    (h : fallbackOf models modelAlias = some fallback) :
    ∃ row, models.get? modelAlias = some row ∧ row.fallback = some fallback := by
  unfold fallbackOf property at h
  cases hget : models.get? modelAlias with
  | some row =>
    rw [hget] at h
    exact ⟨row, rfl, h⟩
  | none =>
    rw [hget] at h
    by_cases hmember : modelAlias ∈ objectPrototypeMembers
    · simp [hmember] at h
    · simp [hmember] at h

theorem GatewayConfig.accepted_model {cfg : GatewayConfig} (h : cfg.accepted = true) {modelAlias : String}
    {row : GatewayModelConfig} (hrow : cfg.models.get? modelAlias = some row) :
    modelAccepted cfg modelAlias row = true := by
  unfold GatewayConfig.accepted at h
  simp only [Bool.and_eq_true, List.all_eq_true] at h
  exact h.1.1.2 (modelAlias, row) (JsMap.mem_entries.mpr hrow)

theorem fallbackAccepted_of_fallbackOf {cfg : GatewayConfig} (h : cfg.accepted = true) {modelAlias fallback : String}
    (hfallback : fallbackOf cfg.models modelAlias = some fallback) :
    fallbackAccepted cfg.models modelAlias fallback = true := by
  obtain ⟨row, hrow, hnext⟩ := fallbackOf_eq_some hfallback
  have hmodel := cfg.accepted_model h hrow
  unfold modelAccepted at hmodel
  simp only [Bool.and_eq_true, hnext, Option.all_some] at hmodel
  exact hmodel.1.2

/-- The schema refuses an alias that is its own fallback. -/
theorem fallbackOf_ne_self {cfg : GatewayConfig} (h : cfg.accepted = true) (modelAlias : String) :
    fallbackOf cfg.models modelAlias ≠ some modelAlias := by
  intro hself
  have hne := fallbackAccepted_of_fallbackOf h hself
  simp [fallbackAccepted] at hne

/-- And two aliases that are each other's. -/
theorem fallbackOf_not_mutual {cfg : GatewayConfig} (h : cfg.accepted = true) {modelAlias fallback : String}
    (hfallback : fallbackOf cfg.models modelAlias = some fallback) :
    fallbackOf cfg.models fallback ≠ some modelAlias := by
  intro hback
  obtain ⟨row, hrow, hnext⟩ := fallbackOf_eq_some hback
  have haccepted := fallbackAccepted_of_fallbackOf h hfallback
  simp [fallbackAccepted, property, hrow, hnext] at haccepted

/-- What is left are rings of three aliases or more. -/
theorem three_le_of_fallbackRing {cfg : GatewayConfig} (h : cfg.accepted = true) {ring : List String}
    (hring : FallbackRing cfg.models ring) : 3 ≤ ring.length := by
  match ring, hring with
  | [], hring => exact absurd rfl hring.nonempty
  | [a], hring =>
    have haa : fallbackOf cfg.models a = some a := by simpa using hring.closed 0 (by simp)
    exact absurd haa (fallbackOf_ne_self h a)
  | [a, b], hring =>
    have hab : fallbackOf cfg.models a = some b := by simpa using hring.closed 0 (by simp)
    have hba : fallbackOf cfg.models b = some a := by simpa using hring.closed 1 (by simp)
    exact absurd hba (fallbackOf_not_mutual h hab)
  | a :: b :: c :: rest, _ => simp

theorem fallback_acyclic_iff (cfg : GatewayConfig) (h : cfg.accepted = true) :
    FallbackAcyclic cfg.models ↔ ¬ ∃ ring, FallbackRing cfg.models ring ∧ 3 ≤ ring.length := by
  unfold FallbackAcyclic
  rw [Chain.neverReturns_iff]
  apply not_congr
  constructor
  · rintro ⟨ring, hring⟩
    exact ⟨ring, hring, three_le_of_fallbackRing h hring⟩
  · rintro ⟨ring, hring, -⟩
    exact ⟨ring, hring⟩

/-! ## A chain and a ring -/

def plainPolicy : GatewayPolicy := ⟨none, ⟨none, none⟩, ⟨{}, [], {}⟩⟩

def fallbackModel (fallback : Option String) : GatewayModelConfig :=
  ⟨"anthropic-primary", "claude-sonnet", fallback, ⟨none, none, none⟩, plainPolicy⟩

/-- "chat-large" falls back to "chat-small". -/
def chainConfig : GatewayConfig where
  providers := ⟨[("anthropic-primary", ⟨.anthropic, "ANTHROPIC_API_KEY", true, none, false⟩)], by decide⟩
  models := ⟨[("chat-large", fallbackModel (some "chat-small")), ("chat-small", fallbackModel none)], by decide⟩

/-- Three aliases, each the fallback of the one before. -/
def ringConfig : GatewayConfig where
  providers := ⟨[("anthropic-primary", ⟨.anthropic, "ANTHROPIC_API_KEY", true, none, false⟩)], by decide⟩
  models := ⟨[("chat-a", fallbackModel (some "chat-b")), ("chat-b", fallbackModel (some "chat-c")),
    ("chat-c", fallbackModel (some "chat-a"))], by decide⟩

theorem chainConfig_acyclic_iff :
    chainConfig.accepted = true ∧
      (FallbackAcyclic chainConfig.models ↔ ¬ ∃ ring, FallbackRing chainConfig.models ring ∧ 3 ≤ ring.length) :=
  ⟨by decide +kernel, fallback_acyclic_iff chainConfig (by decide +kernel)⟩

theorem fallback_ring_accepted : ¬ ∀ cfg : GatewayConfig, cfg.accepted = true → FallbackAcyclic cfg.models := by
  intro hclaim
  have hnever := hclaim ringConfig (by decide +kernel)
  exact hnever "chat-a" "chat-a" 0 3 (by decide) rfl rfl

end AiGateway
