import AiGateway.Chat.CallOptions
import Mathlib.Algebra.Order.Field.Rat
import Mathlib.Data.Rat.Cast.Order
import Mathlib.Tactic.NormNum

/- What `resolveProviderCallOptions` makes of a policy and of the `params` of a request, as a law
   without its order of steps: when it throws (`resolve_throws_iff`), and where each parameter
   that it returns comes from. A value is moved into the bounds of the policy, so it is the one
   that was sent only if that lies inside them; the schema does not ask of a range that its
   minimum is at most its maximum, and of one that is empty the maximum is returned. -/
namespace AiGateway

/-! ## One number under its bounds -/

def ParamRange.Contains (r : ParamRange) (v : Json.Number) : Prop :=
  r.min.value ≤ v.value ∧ v.value ≤ r.max.value

theorem clamp_value (v lo hi : Json.Number) : (clamp v lo hi).value = min hi.value (max lo.value v.value) := by
  have hraised : (if v.value < lo.value then lo else v).value = max lo.value v.value := by
    split_ifs with h
    · exact (max_eq_left h.le).symm
    · exact (max_eq_right (not_lt.mp h)).symm
  rw [← hraised]
  unfold clamp
  generalize (if v.value < lo.value then lo else v) = raised
  simp only
  split_ifs with h
  · exact (min_eq_left h.le).symm
  · exact (min_eq_right (not_lt.mp h)).symm

theorem clamp_contained {r : ParamRange} (hrange : r.min.value ≤ r.max.value) (v : Json.Number) :
    r.Contains (clamp v r.min r.max) := by
  rw [ParamRange.Contains, clamp_value]
  exact ⟨le_min hrange (le_max_left _ _), min_le_left _ _⟩

theorem clamp_of_contained {r : ParamRange} {v : Json.Number} (h : r.Contains v) : clamp v r.min r.max = v := by
  obtain ⟨hmin, hmax⟩ := h
  unfold clamp
  simp only [if_neg (not_lt.mpr hmin), if_neg (not_lt.mpr hmax)]

/-- How a parameter with bounds comes out: the value sent, or else the default, moved into the
range of the policy. -/
structure BoundedLaw (sent : Sent Json.Number) (default : Option Json.Number) (range : Option ParamRange)
    (result : Option Json.Number) : Prop where
  unbounded : range = none → result = sent.orDefault default
  unset : sent.isSet = false → default = none → result = none
  clamped : ∀ r v, range = some r → sent.orDefault default = some v →
    ∃ w, result = some w ∧ w.value = min r.max.value (max r.min.value v.value)
  kept : ∀ r v, range = some r → sent.orDefault default = some v → r.Contains v → result = some v
  inside : ∀ r w, range = some r → result = some w → r.min.value ≤ r.max.value → r.Contains w
  below : ∀ r w, range = some r → result = some w → w.value ≤ r.max.value

theorem bounded_law (sent : Sent Json.Number) (default : Option Json.Number) (range : Option ParamRange) :
    BoundedLaw sent default range (bounded sent default range) := by
  have hbounded : ∀ r v, range = some r → sent.orDefault default = some v →
      bounded sent default range = some (clamp v r.min r.max) := by
    rintro r v rfl hv
    cases sent with
    | null => cases hv
    | absent => simp [bounded, hv]
    | value a => simp [bounded, hv]
  -- A `null` goes through Math.max as 0: it is clamped although nothing was asked for.
  have hclamped : ∀ r w, range = some r → bounded sent default range = some w → ∃ v, w = clamp v r.min r.max := by
    rintro r w rfl hw
    cases sent with
    | null => exact ⟨zeroNumber, (Option.some.inj hw).symm⟩
    | absent =>
      obtain ⟨v, -, rfl⟩ := Option.map_eq_some_iff.mp hw
      exact ⟨v, rfl⟩
    | value a => exact ⟨a, (Option.some.inj hw).symm⟩
  refine ⟨?_, ?_, ?_, ?_, ?_, ?_⟩
  · rintro rfl
    rfl
  · intro hunset hdefault
    cases sent with
    | null => cases hunset
    | value a => cases hunset
    | absent => cases range <;> simp [bounded, Sent.orDefault, hdefault]
  · intro r v hr hv
    exact ⟨_, hbounded r v hr hv, clamp_value v r.min r.max⟩
  · intro r v hr hv hcontained
    rw [hbounded r v hr hv, clamp_of_contained hcontained]
  · intro r w hr hw hrange
    obtain ⟨v, rfl⟩ := hclamped r w hr hw
    exact clamp_contained hrange v
  · intro r w hr hw
    obtain ⟨v, rfl⟩ := hclamped r w hr hw
    rw [clamp_value]
    exact min_le_left _ _

/-! ## The whole of the options -/

/-- `bodyParams`; without them every property is undefined. -/
def bodyValues (body : Option BodyParams) : ParamValues := (body.map BodyParams.values).getD {}

/-- The body sets one of `OVERRIDE_KEYS` that the policy does not list. -/
def SetsRefusedKey (policy : GatewayParams) (body : Option BodyParams) : Prop :=
  ∃ key, isOverrideKey key = true ∧ (bodyValues body).isSet key = true ∧ key.name ∉ policy.allowOverrides

def effectiveThinking (policy : GatewayParams) (body : Option BodyParams) : Option Bool :=
  (bodyValues body).thinkingEnabled.orDefault policy.defaults.thinkingEnabled

def effectiveMaxOutputTokens (policy : GatewayParams) (body : Option BodyParams) : Option Json.Number :=
  bounded (bodyValues body).maxOutputTokens policy.defaults.maxOutputTokens policy.bounds.maxOutputTokens

/-- Thinking is on with a budget in tokens, and the reply would have less than 512 of its own. -/
def StarvesReply (policy : GatewayParams) (body : Option BodyParams) : Prop :=
  effectiveThinking policy body = some true ∧
    ∃ budget, (bodyValues body).thinkingBudget = .value (.tokens budget) ∧
      effectiveMaxTokens (effectiveMaxOutputTokens policy body) < budget.value + 512

/-- Where each parameter comes from. -/
structure OptionsLaw (policy : GatewayParams) (sent : ParamValues) (options : ProviderCallOptions) : Prop where
  temperature : BoundedLaw sent.temperature policy.defaults.temperature policy.bounds.temperature options.temperature
  maxOutputTokens : BoundedLaw sent.maxOutputTokens policy.defaults.maxOutputTokens policy.bounds.maxOutputTokens
    options.maxOutputTokens
  topP : BoundedLaw (numberOf sent.topP) policy.defaults.topP policy.bounds.topP options.topP
  frequencyPenalty : BoundedLaw sent.frequencyPenalty policy.defaults.frequencyPenalty
    policy.bounds.frequencyPenalty options.frequencyPenalty
  presencePenalty : BoundedLaw sent.presencePenalty policy.defaults.presencePenalty policy.bounds.presencePenalty
    options.presencePenalty
  seed : options.seed = sent.seed.orDefault policy.defaults.seed
  thinkingEnabled : options.thinkingEnabled = sent.thinkingEnabled.orDefault policy.defaults.thinkingEnabled
  topK : options.topK = sent.topK.orDefault none
  stop : options.stop = sent.stop.orDefault none
  responseFormat : options.responseFormat = sent.responseFormat.orDefault none
  thinkingBudget : options.thinkingBudget = sent.thinkingBudget.orDefault none
  parallelToolCalls : options.parallelToolCalls = sent.parallelToolCalls.orDefault none

section Resolve
variable {numberText : ℚ → String} {policy : GatewayParams} {body : Option BodyParams}

theorem refusedOverride_isSome_iff :
    (body.bind (refusedOverride policy.allowOverrides)).isSome = true ↔ SetsRefusedKey policy body := by
  unfold SetsRefusedKey bodyValues
  cases body with
  | none =>
    simp only [Option.bind_none, Option.isSome_none, Bool.false_eq_true, Option.map_none, Option.getD_none, false_iff]
    rintro ⟨key, -, hset, -⟩
    cases key <;> cases hset
  | some b =>
    simp only [Option.bind_some, Option.map_some, Option.getD_some, refusedOverride, List.find?_isSome,
      Bool.and_eq_true, Bool.not_eq_true', List.contains_eq_mem, decide_eq_false_iff_not]
    constructor
    · rintro ⟨key, -, ⟨hkey, hset⟩, hrefused⟩
      exact ⟨key, hkey, hset, hrefused⟩
    · rintro ⟨key, hkey, hset, hrefused⟩
      exact ⟨key, b.keys_complete key hset, ⟨hkey, hset⟩, hrefused⟩

/-- A key that is set and has passed the loop is allowed, so the checks after it do not throw. -/
theorem allowed_of_set (hallowed : ¬ SetsRefusedKey policy body) {key : ParamKey} (hkey : isOverrideKey key = true)
    (hset : (bodyValues body).isSet key = true) : key.name ∈ policy.allowOverrides := by
  by_contra hrefused
  exact hallowed ⟨key, hkey, hset, hrefused⟩

/-- The budget that the last check reads. -/
def checkedBudget (policy : GatewayParams) (body : Option BodyParams) : Option ℚ :=
  if effectiveThinking policy body = some true then numericBudget ((bodyValues body).thinkingBudget.orDefault none)
  else none

theorem checkedBudget_eq_some {budget : ℚ} : checkedBudget policy body = some budget ↔
    effectiveThinking policy body = some true ∧
      ∃ n, (bodyValues body).thinkingBudget = .value (.tokens n) ∧ n.value = budget := by
  unfold checkedBudget
  split_ifs with hthinking
  · simp only [hthinking, true_and]
    cases (bodyValues body).thinkingBudget with
    | absent => simp [Sent.orDefault, numericBudget]
    | null => simp [Sent.orDefault, numericBudget]
    | value b => cases b <;> simp [Sent.orDefault, numericBudget]
  · simp [hthinking]

/-- The options before the last check. -/
def assembledOptions (policy : GatewayParams) (body : Option BodyParams) : ProviderCallOptions :=
  let values := bodyValues body
  { temperature := bounded values.temperature policy.defaults.temperature policy.bounds.temperature
    maxOutputTokens := effectiveMaxOutputTokens policy body
    topP := bounded (numberOf values.topP) policy.defaults.topP policy.bounds.topP
    topK := values.topK.orDefault none
    stop := values.stop.orDefault none
    frequencyPenalty := bounded values.frequencyPenalty policy.defaults.frequencyPenalty
      policy.bounds.frequencyPenalty
    presencePenalty := bounded values.presencePenalty policy.defaults.presencePenalty policy.bounds.presencePenalty
    seed := values.seed.orDefault policy.defaults.seed
    responseFormat := values.responseFormat.orDefault none
    thinkingEnabled := effectiveThinking policy body
    thinkingBudget := values.thinkingBudget.orDefault none
    parallelToolCalls := values.parallelToolCalls.orDefault none }

theorem assembled_law (policy : GatewayParams) (body : Option BodyParams) :
    OptionsLaw policy (bodyValues body) (assembledOptions policy body) :=
  ⟨bounded_law _ _ _, bounded_law _ _ _, bounded_law _ _ _, bounded_law _ _ _, bounded_law _ _ _,
    rfl, rfl, rfl, rfl, rfl, rfl, rfl⟩

theorem resolve_of_allowed (hallowed : ¬ SetsRefusedKey policy body) :
    resolveProviderCallOptions numberText policy body =
      match checkedBudget policy body with
      | some budget =>
        if effectiveMaxTokens (effectiveMaxOutputTokens policy body) < budget + 512 then
          .error (insufficientTokensError numberText
            (effectiveMaxTokens (effectiveMaxOutputTokens policy body)) budget)
        else .ok (assembledOptions policy body)
      | none => .ok (assembledOptions policy body) := by
  have hnone : body.bind (refusedOverride policy.allowOverrides) = none := by
    rw [← Option.not_isSome_iff_eq_none, refusedOverride_isSome_iff]
    exact hallowed
  have hthinking : ((bodyValues body).thinkingEnabled.isSet &&
      !policy.allowOverrides.contains "thinkingEnabled") = false := by
    cases hset : (bodyValues body).thinkingEnabled.isSet with
    | false => rfl
    | true =>
      have hmem : "thinkingEnabled" ∈ policy.allowOverrides := @allowed_of_set _ _ hallowed .thinkingEnabled rfl hset
      simpa using hmem
  have hbudget : ((bodyValues body).thinkingBudget.isSet &&
      !policy.allowOverrides.contains "thinkingBudget") = false := by
    cases hset : (bodyValues body).thinkingBudget.isSet with
    | false => rfl
    | true =>
      have hmem : "thinkingBudget" ∈ policy.allowOverrides := @allowed_of_set _ _ hallowed .thinkingBudget rfl hset
      simpa using hmem
  unfold bodyValues at hthinking hbudget
  simp only [resolveProviderCallOptions, hnone, hthinking, hbudget, Bool.false_eq_true, if_false]
  rfl

theorem resolve_of_refused (hrefused : SetsRefusedKey policy body) :
    ∃ e, resolveProviderCallOptions numberText policy body = .error e := by
  obtain ⟨key, hkey⟩ := Option.isSome_iff_exists.mp (refusedOverride_isSome_iff.mpr hrefused)
  simp [resolveProviderCallOptions, hkey]

theorem resolve_throws_iff : (∃ e, resolveProviderCallOptions numberText policy body = .error e) ↔
    SetsRefusedKey policy body ∨ StarvesReply policy body := by
  -- The refused keys are looked at first, the room for the reply at the very end.
  by_cases hrefused : SetsRefusedKey policy body
  · simp only [hrefused, true_or, iff_true]
    exact resolve_of_refused hrefused
  · rw [resolve_of_allowed hrefused]
    simp only [hrefused, false_or]
    cases hbudget : checkedBudget policy body with
    | none =>
      simp only [reduceCtorEq, exists_false, false_iff]
      rintro ⟨hthinking, n, hn, -⟩
      have hsome : checkedBudget policy body = some n.value := checkedBudget_eq_some.mpr ⟨hthinking, n, hn, rfl⟩
      rw [hbudget] at hsome
      cases hsome
    | some budget =>
      obtain ⟨hthinking, n, hn, rfl⟩ := checkedBudget_eq_some.mp hbudget
      have hstarves : StarvesReply policy body ↔
          effectiveMaxTokens (effectiveMaxOutputTokens policy body) < n.value + 512 := by
        constructor
        · rintro ⟨-, n', hn', hless⟩
          rw [hn] at hn'
          cases hn'
          exact hless
        · intro hless
          exact ⟨hthinking, n, hn, hless⟩
      rw [hstarves]
      simp only
      split_ifs with hless
      · simp [hless]
      · simp [hless]

theorem resolve_ok {options : ProviderCallOptions}
    (h : resolveProviderCallOptions numberText policy body = .ok options) :
    options = assembledOptions policy body := by
  by_cases hrefused : SetsRefusedKey policy body
  · obtain ⟨e, he⟩ := @resolve_of_refused numberText policy body hrefused
    rw [h] at he
    cases he
  · rw [resolve_of_allowed hrefused] at h
    split at h
    · split at h
      · cases h
      · exact (Except.ok.inj h).symm
    · exact (Except.ok.inj h).symm

end Resolve

/-- For every policy and every `params`: when the call is refused, and otherwise where each
parameter comes from. -/
theorem resolve_options_law (numberText : ℚ → String) (policy : GatewayParams) (body : Option BodyParams) :
    ((∃ e, resolveProviderCallOptions numberText policy body = .error e) ↔
      SetsRefusedKey policy body ∨ StarvesReply policy body) ∧
    ∀ options, resolveProviderCallOptions numberText policy body = .ok options →
      OptionsLaw policy (bodyValues body) options := by
  refine ⟨resolve_throws_iff, ?_⟩
  intro options h
  rw [resolve_ok h]
  exact assembled_law policy body

/-! ## Two ranges -/

theorem isNumberText_one_point_eight : Json.isNumberText ['1', '.', '8'] = true := by decide

theorem isNumberText_one : Json.isNumberText ['1'] = true := by decide

def number1 : Json.Number := ⟨['1'], isNumberText_one⟩

def number1_8 : Json.Number := ⟨['1', '.', '8'], isNumberText_one_point_eight⟩

theorem zeroNumber_value : zeroNumber.value = 0 := by
  have hparts : Json.numberParts ['0'] = ⟨false, ['0'], [], []⟩ := rfl
  simp [zeroNumber, Json.Number.value, hparts, Json.digitsValue, Json.dropSign]

theorem number1_value : number1.value = 1 := by
  have hparts : Json.numberParts ['1'] = ⟨false, ['1'], [], []⟩ := rfl
  simp [number1, Json.Number.value, hparts, Json.digitsValue, Json.dropSign]

theorem number1_8_value : number1_8.value = 9 / 5 := by
  have hparts : Json.numberParts ['1', '.', '8'] = ⟨false, ['1'], ['.', '8'], []⟩ := rfl
  simp [number1_8, Json.Number.value, hparts, Json.digitsValue, Json.dropSign]
  norm_num

/-- A policy that lets a request set `temperature` within a range. -/
def temperaturePolicy (min max : Json.Number) : GatewayParams where
  defaults := {}
  allowOverrides := ["temperature"]
  bounds := { temperature := some ⟨min, max⟩ }

theorem hotBody_keys_complete : ∀ key, ({ temperature := .value number1_8 } : ParamValues).isSet key = true →
    key ∈ [ParamKey.temperature] := by
  intro key h
  cases key <;> first | exact List.mem_singleton.mpr rfl | cases h

def hotBody : BodyParams := ⟨{ temperature := .value number1_8 }, [.temperature], hotBody_keys_complete⟩

theorem resolve_hotBody (min max : Json.Number) :
    ∃ options w, resolveProviderCallOptions (fun _ => "") (temperaturePolicy min max) (some hotBody) = .ok options ∧
      options.temperature = some w ∧ w.value = Min.min max.value (Max.max min.value number1_8.value) :=
  ⟨_, _, rfl, rfl, clamp_value _ _ _⟩

/-- The range [0, 1] makes a 1.8 a 1. The range with minimum 1.8 and maximum 1, which the schema
accepts as well, lets nothing lie inside it: it makes a 1.8 a 1 too. -/
theorem temperature_moved :
    (temperaturePolicy zeroNumber number1).bounds.accepted = true ∧
    (∃ options w, resolveProviderCallOptions (fun _ => "") (temperaturePolicy zeroNumber number1) (some hotBody) =
        .ok options ∧ options.temperature = some w ∧ w.value ≠ number1_8.value) ∧
    (temperaturePolicy number1_8 number1).bounds.accepted = true ∧
    ∃ options w, resolveProviderCallOptions (fun _ => "") (temperaturePolicy number1_8 number1) (some hotBody) =
        .ok options ∧ options.temperature = some w ∧ w.value < number1_8.value := by
  obtain ⟨inside, w, hinside, hw, hvalue⟩ := resolve_hotBody zeroNumber number1
  obtain ⟨empty, w', hempty, hw', hvalue'⟩ := resolve_hotBody number1_8 number1
  rw [number1_value, zeroNumber_value, number1_8_value] at hvalue
  rw [number1_value, number1_8_value] at hvalue'
  refine ⟨?_, ⟨inside, w, hinside, hw, ?_⟩, ?_, ⟨empty, w', hempty, hw', ?_⟩⟩
  · simp [ParamBounds.accepted, temperaturePolicy, zeroNumber_value, number1_value]
  · rw [hvalue, number1_8_value]
    norm_num
  · simp [ParamBounds.accepted, temperaturePolicy, number1_8_value, number1_value]
    norm_num
  · rw [hvalue', number1_8_value]
    norm_num

end AiGateway
