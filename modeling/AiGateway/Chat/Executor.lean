import AiGateway.Chat.Resilience
import AiGateway.Lib.JsString
import AiGateway.Lib.Logged

/- `ResilientExecutor.executeWithRetryAndFallback` and its loop `tryAlias`: the calls of
   `runOnce` that it makes, with the waits between them, and what it returns or throws. A
   deadline that passes before `runOnce` has settled is an error like another, a 504.

   `executor_law`: attempts on the primary alias, counted from 1, then attempts on the fallback
   alias if all of those failed; each alias is left at its first success, at its first error
   that the policy does not retry, or after its last attempt. -/
namespace AiGateway

/-! ## One attempt -/

/-- How a `runOnce` ends under a deadline, which may pass first when there is one. -/
inductive RunOutcome (timeoutMs : Option ℕ) (α : Type) where
  | value (a : α)
  | error (e : ThrownError)
  | deadline (ms : ℕ) (hset : timeoutMs = some ms) (hpos : ms ≠ 0)

def runWithTimeout {timeoutMs : Option ℕ} {α : Type} : RunOutcome timeoutMs α → Except ThrownError α
  | .value a => .ok a
  | .error e => .error e
  | .deadline ms _ _ => .error (timeoutError ms)

inductive ExecutorCall where
  | runOnce (modelAlias : String) (attempt : ℕ)
  | sleep (ms : ℕ)
  deriving DecidableEq, Repr

/-! ## The loops -/

structure AttemptResult (α : Type) where
  result : Except ThrownError α
  attempts : ℕ

structure ResilientExecutionResult (α : Type) where
  value : α
  usedAlias : String
  attempts : ℕ
  didFallback : Bool
  deriving DecidableEq, Repr

section Executor
variable {α : Type} (retry : RetryPolicy) (runOnce : String → ℕ → RunOutcome retry.timeoutMs α)

/-- The loop of `tryAlias` from `attempt` on, with `left` attempts after it. The policy allows
at least one attempt, so the body runs. -/
def tryAliasFrom (modelAlias : String) : ℕ → ℕ → Logged ExecutorCall ThrownError (AttemptResult α)
  | left, attempt => do
    let settled ← (Logged.ask (.runOnce modelAlias attempt)
      (runWithTimeout (runOnce modelAlias attempt))).settle
    match settled with
    | .ok value => pure ⟨.ok value, attempt⟩
    | .error e =>
      if !isRetryableHttpError e retry.onStatus then pure ⟨.error e, attempt⟩
      else match left with
        | 0 => pure ⟨.error e, attempt⟩
        | left + 1 => do
          Logged.call (.sleep (computeBackoffDelayMs attempt retry)) ()
          tryAliasFrom modelAlias left (attempt + 1)

def tryAlias (modelAlias : String) : Logged ExecutorCall ThrownError (AttemptResult α) :=
  tryAliasFrom retry runOnce modelAlias (retry.maxAttempts - 1) 1

end Executor

def executeWithRetryAndFallback {α : Type} (o : ExecutionOptions)
    (runOnce : String → ℕ → RunOutcome o.retry.timeoutMs α) :
    Logged ExecutorCall ThrownError (ResilientExecutionResult α) :=
  match fallbackCycleError o with
  | some e => Logged.throws e
  | none => do
    let primary ← tryAlias o.retry runOnce o.primaryAlias
    match primary.result with
    | .ok value => pure ⟨value, o.primaryAlias, primary.attempts, false⟩
    | .error primaryError =>
      match JsString.truthy o.fallbackAlias with
      | none => Logged.throws primaryError
      | some fallbackAlias => do
        let fallback ← tryAlias o.retry runOnce fallbackAlias
        match fallback.result with
        | .ok value => pure ⟨value, fallbackAlias, primary.attempts + fallback.attempts, true⟩
        | .error fallbackError => Logged.throws (toExhaustedException o primaryError fallbackError)

/-! ## What the loops do -/

/-- The calls of `runOnce`, without the waits. -/
def invocations (calls : List ExecutorCall) : List (String × ℕ) :=
  calls.filterMap fun
    | .runOnce modelAlias attempt => some (modelAlias, attempt)
    | .sleep _ => none

theorem invocations_append (xs ys : List ExecutorCall) :
    invocations (xs ++ ys) = invocations xs ++ invocations ys := List.filterMap_append

/-- Attempts `first`, `first + 1`, ... on an alias. -/
def attemptsOn (modelAlias : String) (first count : ℕ) : List (String × ℕ) :=
  (List.range' first count).map fun attempt => (modelAlias, attempt)

/-- The attempt failed with an `HttpException` whose status the policy retries. -/
def retries {α : Type} (retry : RetryPolicy) : Except ThrownError α → Bool
  | .ok _ => false
  | .error e => isRetryableHttpError e retry.onStatus

/-- `n` attempts are made of an alias whose attempt `k` ends in `run k`: it is left early
exactly where an attempt succeeds or fails for good. -/
structure AliasLaw {α : Type} (retry : RetryPolicy) (run : ℕ → Except ThrownError α) (n : ℕ) : Prop where
  pos : 1 ≤ n
  le : n ≤ retry.maxAttempts
  before : ∀ k, 1 ≤ k → k < n → retries retry (run k) = true
  last : n < retry.maxAttempts → retries retry (run n) = false

section Loop
variable {α : Type} {retry : RetryPolicy} {runOnce : String → ℕ → RunOutcome retry.timeoutMs α}

/-- The last attempt: it ends the matter, or there is none after it. -/
theorem tryAliasFrom_stop {modelAlias : String} {left attempt : ℕ}
    (h : retries retry (runWithTimeout (runOnce modelAlias attempt)) = false ∨ left = 0) :
    tryAliasFrom retry runOnce modelAlias left attempt =
      ⟨[.runOnce modelAlias attempt], .ok ⟨runWithTimeout (runOnce modelAlias attempt), attempt⟩⟩ := by
  unfold tryAliasFrom
  cases hrun : runWithTimeout (runOnce modelAlias attempt) with
  | ok value => simp
  | error e =>
    cases hretry : isRetryableHttpError e retry.onStatus with
    | false => simp [hretry]
    | true =>
      rcases h with h | rfl
      · rw [hrun, retries, hretry] at h
        cases h
      · simp

/-- An attempt that is followed by another. -/
theorem tryAliasFrom_retry {modelAlias : String} {left attempt : ℕ}
    (h : retries retry (runWithTimeout (runOnce modelAlias attempt)) = true) :
    tryAliasFrom retry runOnce modelAlias (left + 1) attempt =
      ⟨.runOnce modelAlias attempt :: .sleep (computeBackoffDelayMs attempt retry) ::
          (tryAliasFrom retry runOnce modelAlias left (attempt + 1)).calls,
        (tryAliasFrom retry runOnce modelAlias left (attempt + 1)).outcome⟩ := by
  rw [tryAliasFrom]
  cases hrun : runWithTimeout (runOnce modelAlias attempt) with
  | ok value => rw [hrun, retries] at h; cases h
  | error e =>
    rw [hrun, retries] at h
    simp [h, Logged.call]

/-- The loop from `attempt` on makes `n` attempts that are retried, and one more. -/
theorem tryAliasFrom_spec (modelAlias : String) (left attempt : ℕ) :
    ∃ n, n ≤ left ∧
      invocations (tryAliasFrom retry runOnce modelAlias left attempt).calls = attemptsOn modelAlias attempt (n + 1) ∧
      (∀ k < n, retries retry (runWithTimeout (runOnce modelAlias (attempt + k))) = true) ∧
      (n < left → retries retry (runWithTimeout (runOnce modelAlias (attempt + n))) = false) ∧
      (tryAliasFrom retry runOnce modelAlias left attempt).outcome =
        .ok ⟨runWithTimeout (runOnce modelAlias (attempt + n)), attempt + n⟩ := by
  induction left generalizing attempt with
  | zero =>
    rw [tryAliasFrom_stop (.inr rfl)]
    exact ⟨0, Nat.le_refl 0, rfl, by simp, by simp, rfl⟩
  | succ left ih =>
    cases hretry : retries retry (runWithTimeout (runOnce modelAlias attempt)) with
    | false =>
      rw [tryAliasFrom_stop (.inl hretry)]
      exact ⟨0, by omega, rfl, by simp, fun _ => hretry, rfl⟩
    | true =>
      -- The attempts after this one are numbered from `attempt + 1`.
      obtain ⟨n, hn, hcalls, hbefore, hlast, houtcome⟩ := ih (attempt + 1)
      have hshift : ∀ k, attempt + 1 + k = attempt + (k + 1) := by omega
      simp only [hshift] at hbefore hlast houtcome
      rw [tryAliasFrom_retry hretry]
      refine ⟨n + 1, by omega, ?_, ?_, ?_, houtcome⟩
      · show (modelAlias, attempt) ::
          invocations (tryAliasFrom retry runOnce modelAlias left (attempt + 1)).calls = _
        rw [hcalls]
        rfl
      · intro k hk
        cases k with
        | zero => exact hretry
        | succ k => exact hbefore k (by omega)
      · intro hlt
        exact hlast (by omega)

/-- What `tryAlias` does in `n` attempts on one alias. -/
structure AliasRun (retry : RetryPolicy) (runOnce : String → ℕ → RunOutcome retry.timeoutMs α)
    (modelAlias : String) (n : ℕ) : Prop where
  law : AliasLaw retry (fun attempt => runWithTimeout (runOnce modelAlias attempt)) n
  invoked : invocations (tryAlias retry runOnce modelAlias).calls = attemptsOn modelAlias 1 n
  outcome : (tryAlias retry runOnce modelAlias).outcome = .ok ⟨runWithTimeout (runOnce modelAlias n), n⟩

theorem tryAlias_run (modelAlias : String) : ∃ n, AliasRun retry runOnce modelAlias n := by
  obtain ⟨n, hn, hcalls, hbefore, hlast, houtcome⟩ :=
    @tryAliasFrom_spec _ retry runOnce modelAlias (retry.maxAttempts - 1) 1
  have hpos := retry.maxAttempts_pos
  refine ⟨n + 1, ⟨by omega, by omega, ?_, ?_⟩, hcalls, ?_⟩
  · intro k hk hkn
    have := hbefore (k - 1) (by omega)
    rwa [show 1 + (k - 1) = k by omega] at this
  · intro hlt
    rw [Nat.add_comm]
    exact hlast (by omega)
  · rw [Nat.add_comm n 1]
    exact houtcome

end Loop

/-! ## The law -/

/-- `n` attempts on the primary alias and `m` on the fallback. -/
structure ExecutorLaw {α : Type} (o : ExecutionOptions) (runOnce : String → ℕ → RunOutcome o.retry.timeoutMs α)
    (n m : ℕ) : Prop where
  primary : AliasLaw o.retry (fun attempt => runWithTimeout (runOnce o.primaryAlias attempt)) n
  invoked : invocations (executeWithRetryAndFallback o runOnce).calls =
    attemptsOn o.primaryAlias 1 n ++ attemptsOn ((JsString.truthy o.fallbackAlias).getD "") 1 m
  fallback : m ≠ 0 → ∃ f, JsString.truthy o.fallbackAlias = some f ∧
    AliasLaw o.retry (fun attempt => runWithTimeout (runOnce f attempt)) m
  fallback_iff : m ≠ 0 ↔ (JsString.truthy o.fallbackAlias).isSome = true ∧
    ∀ k, 1 ≤ k → k ≤ n → ∀ v, runWithTimeout (runOnce o.primaryAlias k) ≠ .ok v
  returned : ∀ r, (executeWithRetryAndFallback o runOnce).outcome = .ok r →
    r.attempts = n + m ∧ r.didFallback = decide (m ≠ 0) ∧
      ∃ last, (invocations (executeWithRetryAndFallback o runOnce).calls).getLast? = some last ∧
        r.usedAlias = last.1 ∧ runWithTimeout (runOnce last.1 last.2) = .ok r.value
  returns : ∀ last v, (invocations (executeWithRetryAndFallback o runOnce).calls).getLast? = some last →
    runWithTimeout (runOnce last.1 last.2) = .ok v →
    ∃ r, (executeWithRetryAndFallback o runOnce).outcome = .ok r

theorem getLast_attemptsOn {modelAlias : String} {n : ℕ} (h : 1 ≤ n) :
    (attemptsOn modelAlias 1 n).getLast? = some (modelAlias, n) := by
  obtain ⟨k, rfl⟩ : ∃ k, n = k + 1 := ⟨n - 1, by omega⟩
  rw [attemptsOn, List.range'_concat, List.map_append, List.map_singleton, List.getLast?_concat]
  simp [Nat.add_comm]

section Execute
variable {α : Type} {o : ExecutionOptions} {runOnce : String → ℕ → RunOutcome o.retry.timeoutMs α} {n m : ℕ}

theorem fallbackCycleError_none (h : o.fallbackAlias ≠ some o.primaryAlias) : fallbackCycleError o = none := by
  rw [fallbackCycleError, if_neg h]

theorem tryAlias_eq {modelAlias : String} {r : AttemptResult α}
    (h : (tryAlias o.retry runOnce modelAlias).outcome = .ok r) :
    tryAlias o.retry runOnce modelAlias = ⟨(tryAlias o.retry runOnce modelAlias).calls, .ok r⟩ := by
  rw [← h]

theorem execute_primary {v : α} (hcycle : o.fallbackAlias ≠ some o.primaryAlias)
    (hn : (tryAlias o.retry runOnce o.primaryAlias).outcome = .ok ⟨.ok v, n⟩) :
    executeWithRetryAndFallback o runOnce =
      ⟨(tryAlias o.retry runOnce o.primaryAlias).calls, .ok ⟨v, o.primaryAlias, n, false⟩⟩ := by
  rw [executeWithRetryAndFallback, fallbackCycleError_none hcycle, tryAlias_eq hn]
  simp

theorem execute_no_fallback {e : ThrownError} (hcycle : o.fallbackAlias ≠ some o.primaryAlias)
    (hn : (tryAlias o.retry runOnce o.primaryAlias).outcome = .ok ⟨.error e, n⟩)
    (hnone : JsString.truthy o.fallbackAlias = none) :
    executeWithRetryAndFallback o runOnce =
      ⟨(tryAlias o.retry runOnce o.primaryAlias).calls, .error e⟩ := by
  rw [executeWithRetryAndFallback, fallbackCycleError_none hcycle, tryAlias_eq hn]
  simp [hnone, Logged.throws]

/-- What the executor makes of the end of the fallback alias. -/
def fallbackOutcome (o : ExecutionOptions) (primaryError : ThrownError) (f : String) (attempts : ℕ) :
    Except ThrownError α → Except ThrownError (ResilientExecutionResult α)
  | .ok v => .ok ⟨v, f, attempts, true⟩
  | .error e => .error (toExhaustedException o primaryError e)

theorem execute_fallback {e : ThrownError} {f : String} {r : Except ThrownError α}
    (hcycle : o.fallbackAlias ≠ some o.primaryAlias)
    (hn : (tryAlias o.retry runOnce o.primaryAlias).outcome = .ok ⟨.error e, n⟩)
    (hf : JsString.truthy o.fallbackAlias = some f)
    (hm : (tryAlias o.retry runOnce f).outcome = .ok ⟨r, m⟩) :
    executeWithRetryAndFallback o runOnce =
      ⟨(tryAlias o.retry runOnce o.primaryAlias).calls ++ (tryAlias o.retry runOnce f).calls,
        fallbackOutcome o e f (n + m) r⟩ := by
  rw [executeWithRetryAndFallback, fallbackCycleError_none hcycle, tryAlias_eq hn]
  simp only [Logged.bind_ok, hf]
  rw [tryAlias_eq hm]
  cases r <;> simp [Logged.throws, fallbackOutcome]

theorem executor_law_primary {v : α} (hcycle : o.fallbackAlias ≠ some o.primaryAlias)
    (hprimary : AliasRun o.retry runOnce o.primaryAlias n)
    (hv : runWithTimeout (runOnce o.primaryAlias n) = .ok v) : ExecutorLaw o runOnce n 0 := by
  have hexec := execute_primary hcycle (by rw [hprimary.outcome, hv])
  have hpos := hprimary.law.pos
  refine ⟨hprimary.law, ?_, ?_, ?_, ?_, ?_⟩
  · rw [hexec, hprimary.invoked]
    simp [attemptsOn]
  · intro h
    omega
  · constructor
    · intro h
      omega
    · intro h
      exact absurd hv (h.2 n hpos (Nat.le_refl n) v)
  · intro r hr
    rw [hexec] at hr
    cases hr
    refine ⟨rfl, rfl, (o.primaryAlias, n), ?_, rfl, hv⟩
    rw [hexec, hprimary.invoked, getLast_attemptsOn hpos]
  · intro last v' _ _
    exact ⟨_, by rw [hexec]⟩

theorem executor_law_no_fallback {e : ThrownError} (hcycle : o.fallbackAlias ≠ some o.primaryAlias)
    (hprimary : AliasRun o.retry runOnce o.primaryAlias n)
    (he : runWithTimeout (runOnce o.primaryAlias n) = .error e)
    (hnone : JsString.truthy o.fallbackAlias = none) : ExecutorLaw o runOnce n 0 := by
  have hexec := execute_no_fallback hcycle (by rw [hprimary.outcome, he]) hnone
  refine ⟨hprimary.law, ?_, ?_, ?_, ?_, ?_⟩
  · rw [hexec, hprimary.invoked]
    simp [attemptsOn]
  · intro h
    omega
  · constructor
    · intro h
      omega
    · intro h
      rw [hnone] at h
      cases h.1
  · intro r hr
    rw [hexec] at hr
    cases hr
  · intro last v hlast hv
    rw [hexec, hprimary.invoked, getLast_attemptsOn hprimary.law.pos] at hlast
    cases hlast
    rw [he] at hv
    cases hv

/-- An attempt before the last one has not succeeded, and neither has a last one that failed. -/
theorem AliasLaw.failed {retry : RetryPolicy} {run : ℕ → Except ThrownError α} {e : ThrownError}
    (hlaw : AliasLaw retry run n) (he : run n = .error e) : ∀ k, 1 ≤ k → k ≤ n → ∀ v, run k ≠ .ok v := by
  intro k hk hkn v hv
  by_cases hlt : k < n
  · have := hlaw.before k hk hlt
    rw [hv, retries] at this
    cases this
  · obtain rfl : k = n := by omega
    rw [hv] at he
    cases he

theorem executor_law_fallback {e : ThrownError} {f : String} (hcycle : o.fallbackAlias ≠ some o.primaryAlias)
    (hprimary : AliasRun o.retry runOnce o.primaryAlias n)
    (he : runWithTimeout (runOnce o.primaryAlias n) = .error e) (hf : JsString.truthy o.fallbackAlias = some f)
    (hfallback : AliasRun o.retry runOnce f m) :
    ExecutorLaw o runOnce n m := by
  have hexec := execute_fallback hcycle (by rw [hprimary.outcome, he]) hf hfallback.outcome
  have hpos := hfallback.law.pos
  -- The attempts on the fallback alias come after all those on the primary one.
  have hinvoked : invocations (executeWithRetryAndFallback o runOnce).calls =
      attemptsOn o.primaryAlias 1 n ++ attemptsOn f 1 m := by
    rw [hexec, invocations_append, hprimary.invoked, hfallback.invoked]
  have hlast : (invocations (executeWithRetryAndFallback o runOnce).calls).getLast? = some (f, m) := by
    rw [hinvoked, List.getLast?_append, getLast_attemptsOn hpos]
    rfl
  refine ⟨hprimary.law, ?_, ?_, ?_, ?_, ?_⟩
  · rw [hinvoked, hf]
    rfl
  · intro _
    exact ⟨f, hf, hfallback.law⟩
  · constructor
    · intro _
      refine ⟨by rw [hf]; rfl, ?_⟩
      exact hprimary.law.failed he
    · intro _
      omega
  · intro r hr
    rw [hexec] at hr
    cases hrun : runWithTimeout (runOnce f m) with
    | error e' =>
      rw [hrun] at hr
      cases hr
    | ok v =>
      rw [hrun] at hr
      cases hr
      refine ⟨rfl, ?_, (f, m), hlast, rfl, hrun⟩
      exact (decide_eq_true (by omega)).symm
  · intro last v hlast' hv
    rw [hlast] at hlast'
    cases hlast'
    rw [hexec, show runWithTimeout (runOnce f m) = .ok v from hv]
    exact ⟨_, rfl⟩

theorem exists_executorLaw (hcycle : o.fallbackAlias ≠ some o.primaryAlias) : ∃ n m, ExecutorLaw o runOnce n m := by
  obtain ⟨n, hprimary⟩ := @tryAlias_run _ o.retry runOnce o.primaryAlias
  cases hrun : runWithTimeout (runOnce o.primaryAlias n) with
  | ok v => exact ⟨n, 0, executor_law_primary hcycle hprimary hrun⟩
  | error e =>
    cases hf : JsString.truthy o.fallbackAlias with
    | none => exact ⟨n, 0, executor_law_no_fallback hcycle hprimary hrun hf⟩
    | some f =>
      obtain ⟨m, hfallback⟩ := @tryAlias_run _ o.retry runOnce f
      exact ⟨n, m, executor_law_fallback hcycle hprimary hrun hf hfallback⟩

/-- Nothing is called but the two aliases. -/
theorem alias_of_invoked {modelAlias : String} {k : ℕ}
    (h : (modelAlias, k) ∈ invocations (executeWithRetryAndFallback o runOnce).calls) :
    modelAlias = o.primaryAlias ∨ JsString.truthy o.fallbackAlias = some modelAlias := by
  by_cases hcycle : o.fallbackAlias = some o.primaryAlias
  · rw [executeWithRetryAndFallback, fallbackCycleError, if_pos hcycle] at h
    cases h
  · obtain ⟨n, m, hlaw⟩ := @exists_executorLaw _ o runOnce hcycle
    rw [hlaw.invoked, List.mem_append] at h
    rcases h with h | h
    · obtain ⟨_, -, heq⟩ := List.mem_map.mp h
      cases heq
      exact .inl rfl
    · obtain ⟨j, hj, heq⟩ := List.mem_map.mp h
      cases heq
      have hm : m ≠ 0 := by
        rintro rfl
        cases hj
      obtain ⟨f, hf, -⟩ := hlaw.fallback hm
      rw [hf]
      exact .inr rfl

/-- When the primary alias only fails, the fallback alias is tried. -/
theorem fallback_invoked {f : String} (hcycle : o.fallbackAlias ≠ some o.primaryAlias)
    (hf : JsString.truthy o.fallbackAlias = some f)
    (hfails : ∀ k v, runWithTimeout (runOnce o.primaryAlias k) ≠ .ok v) :
    (f, 1) ∈ invocations (executeWithRetryAndFallback o runOnce).calls := by
  obtain ⟨n, m, hlaw⟩ := @exists_executorLaw _ o runOnce hcycle
  have hm : m ≠ 0 := hlaw.fallback_iff.mpr ⟨by rw [hf]; rfl, fun k _ _ v => hfails k v⟩
  rw [hlaw.invoked, hf]
  apply List.mem_append_right
  apply List.mem_map_of_mem
  rw [List.mem_range'_1]
  omega

end Execute

theorem executor_law {α : Type} (o : ExecutionOptions) (runOnce : String → ℕ → RunOutcome o.retry.timeoutMs α)
    (hcycle : o.fallbackAlias ≠ some o.primaryAlias) : ∃ n m, m ≤ o.retry.maxAttempts ∧ ExecutorLaw o runOnce n m := by
  obtain ⟨n, m, hlaw⟩ := @exists_executorLaw _ o runOnce hcycle
  refine ⟨n, m, ?_, hlaw⟩
  by_cases hm : m = 0
  · omega
  · obtain ⟨f, -, hfallback⟩ := hlaw.fallback hm
    exact hfallback.le

/-- The first attempt is answered with a 503, the second with a value. -/
def secondTry (_modelAlias : String) : ℕ → RunOutcome defaultRetryPolicy.timeoutMs String
  | 1 => .error (.http 503 (some "PROVIDER_UNAVAILABLE") "Service Unavailable" none)
  | _ => .value "hello"

theorem tryAlias_second_try (modelAlias : String) :
    (tryAlias defaultRetryPolicy secondTry modelAlias).outcome = .ok ⟨.ok "hello", 2⟩ := by
  show (tryAliasFrom defaultRetryPolicy secondTry modelAlias 2 1).outcome = _
  rw [tryAliasFrom_retry rfl, tryAliasFrom_stop (.inl rfl)]
  rfl

theorem executor_law_second_try :
    (executeWithRetryAndFallback ⟨"chat-default", some "chat-small", defaultRetryPolicy⟩ secondTry).outcome =
        .ok ⟨"hello", "chat-default", 2, false⟩ ∧
      ∃ n m, m ≤ 3 ∧ ExecutorLaw ⟨"chat-default", some "chat-small", defaultRetryPolicy⟩ secondTry n m := by
  refine ⟨?_, executor_law ⟨"chat-default", some "chat-small", defaultRetryPolicy⟩ secondTry (by decide)⟩
  rw [execute_primary (by decide) (tryAlias_second_try _)]

end AiGateway
