import AiGateway.Chat.Executor

/- The count of attempts in an exhausted exception against the attempts that were made.
   `toExhaustedException` computes the count from the policy, `maxAttempts` for each alias, so
   it is right exactly where neither alias was left early. -/
namespace AiGateway

/-- `totalAttempts` in the details of a thrown value. -/
def ThrownError.totalAttempts : ThrownError → Option ℕ
  | .http _ _ _ (some details) => details.totalAttempts
  | .http _ _ _ none => none
  | .other _ => none

/-- The response object of an `HttpException` has a `code`. -/
def ThrownError.hasCode : ThrownError → Bool
  | .http _ code _ _ => code.isSome
  | .other _ => false

/-- An alias is not left before its last attempt: every attempt before that is retried. -/
def UsesEveryAttempt {α : Type} (retry : RetryPolicy) (run : ℕ → Except ThrownError α) : Prop :=
  ∀ k, 1 ≤ k → k < retry.maxAttempts → retries retry (run k) = true

/-- The attempt ended in an error with a code. -/
def endsInCodedError {α : Type} : Except ThrownError α → Bool
  | .ok _ => false
  | .error e => e.hasCode

section Count
variable {α : Type} {o : ExecutionOptions} {runOnce : String → ℕ → RunOutcome o.retry.timeoutMs α} {n m : ℕ}

theorem AliasLaw.eq_maxAttempts_iff {retry : RetryPolicy} {run : ℕ → Except ThrownError α}
    (hlaw : AliasLaw retry run n) : n = retry.maxAttempts ↔ UsesEveryAttempt retry run := by
  have hle := hlaw.le
  constructor
  · intro hn k hk hkmax
    exact hlaw.before k hk (by omega)
  · intro hall
    by_contra hne
    have hlast := hlaw.last (by omega)
    rw [hall n hlaw.pos (by omega)] at hlast
    cases hlast

theorem length_attemptsOn (modelAlias : String) (first count : ℕ) :
    (attemptsOn modelAlias first count).length = count := by
  rw [attemptsOn, List.length_map, List.length_range']

/-- What an exhausted exception reports depends on the primary's error only by its code. -/
theorem totalAttempts_toExhausted {f : String} (hf : JsString.truthy o.fallbackAlias = some f)
    (primaryError fallbackError : ThrownError) :
    (toExhaustedException o primaryError fallbackError).totalAttempts =
      if primaryError.hasCode then some (o.retry.maxAttempts * 2) else none := by
  have hsome : o.fallbackAlias.isSome = true := by
    cases h : o.fallbackAlias with
    | none => rw [h] at hf; cases hf
    | some g => rfl
  cases primaryError with
  | other message => rfl
  | http status code message details =>
    cases code with
    | none => rfl
    | some code => simp [toExhaustedException, ThrownError.totalAttempts, ThrownError.hasCode, hsome]

/-- A failed run with a fallback alias: both aliases were tried, and both failed. -/
theorem execute_failed {f : String} {x : ThrownError} (hcycle : o.fallbackAlias ≠ some o.primaryAlias)
    (hf : JsString.truthy o.fallbackAlias = some f)
    (hfail : (executeWithRetryAndFallback o runOnce).outcome = .error x) :
    ∃ n m e e', AliasRun o.retry runOnce o.primaryAlias n ∧ AliasRun o.retry runOnce f m ∧
      runWithTimeout (runOnce o.primaryAlias n) = .error e ∧ runWithTimeout (runOnce f m) = .error e' ∧
      x = toExhaustedException o e e' ∧
      (invocations (executeWithRetryAndFallback o runOnce).calls).length = n + m := by
  obtain ⟨n, hprimary⟩ := @tryAlias_run _ o.retry runOnce o.primaryAlias
  obtain ⟨m, hfallback⟩ := @tryAlias_run _ o.retry runOnce f
  cases hrun : runWithTimeout (runOnce o.primaryAlias n) with
  | ok v =>
    rw [execute_primary hcycle (by rw [hprimary.outcome, hrun])] at hfail
    cases hfail
  | error e =>
    have hexec := execute_fallback hcycle (by rw [hprimary.outcome, hrun]) hf hfallback.outcome
    rw [hexec] at hfail
    cases hrun' : runWithTimeout (runOnce f m) with
    | ok v =>
      rw [hrun'] at hfail
      cases hfail
    | error e' =>
      rw [hrun'] at hfail
      refine ⟨n, m, e, e', hprimary, hfallback, hrun, hrun', ?_, ?_⟩
      · exact (Except.error.inj hfail).symm
      · rw [hexec, invocations_append, hprimary.invoked, hfallback.invoked, List.length_append,
          length_attemptsOn, length_attemptsOn]

end Count

/-- Both aliases have failed. The exception reports the attempts that were made exactly where
every attempt but the last on each alias was one to retry, and the primary's last error has a
code; without a code nothing is reported. -/
theorem totalAttempts_exact_iff {α : Type} (o : ExecutionOptions)
    (runOnce : String → ℕ → RunOutcome o.retry.timeoutMs α) {f : String} {x : ThrownError}
    (hcycle : o.fallbackAlias ≠ some o.primaryAlias) (hf : JsString.truthy o.fallbackAlias = some f)
    (hfail : (executeWithRetryAndFallback o runOnce).outcome = .error x) :
    x.totalAttempts = some (invocations (executeWithRetryAndFallback o runOnce).calls).length ↔
      UsesEveryAttempt o.retry (fun k => runWithTimeout (runOnce o.primaryAlias k)) ∧
      UsesEveryAttempt o.retry (fun k => runWithTimeout (runOnce f k)) ∧
      endsInCodedError (runWithTimeout (runOnce o.primaryAlias o.retry.maxAttempts)) = true := by
  obtain ⟨n, m, e, e', hprimary, hfallback, he, -, rfl, hcount⟩ := execute_failed hcycle hf hfail
  have hn := hprimary.law.eq_maxAttempts_iff
  have hm := hfallback.law.eq_maxAttempts_iff
  have hnle := hprimary.law.le
  have hmle := hfallback.law.le
  rw [totalAttempts_toExhausted hf, hcount, ← hn, ← hm]
  constructor
  · intro hreported
    cases hcode : e.hasCode with
    | false => simp [hcode] at hreported
    | true =>
      simp only [hcode, if_true, Option.some.injEq] at hreported
      refine ⟨by omega, by omega, ?_⟩
      rw [show o.retry.maxAttempts = n by omega, he]
      exact hcode
  · intro h
    obtain ⟨hn, hm, hcode⟩ := h
    rw [← hn, he] at hcode
    rw [if_pos (show e.hasCode = true from hcode)]
    congr 1
    omega

/-- Every attempt on either alias is answered with `status`. -/
def alwaysAnswers (status : ℕ) (code : String) (timeoutMs : Option ℕ) (_modelAlias : String) (_attempt : ℕ) :
    RunOutcome timeoutMs String :=
  .error (.http status (some code) "failed" none)

def defaultWithFallback : ExecutionOptions := ⟨"chat-default", some "chat-small", defaultRetryPolicy⟩

theorem alwaysAnswers_503 (modelAlias : String) :
    (tryAlias defaultRetryPolicy (alwaysAnswers 503 "PROVIDER_UNAVAILABLE" _) modelAlias).outcome =
      .ok ⟨.error (.http 503 (some "PROVIDER_UNAVAILABLE") "failed" none), 3⟩ := by
  show (tryAliasFrom defaultRetryPolicy (alwaysAnswers 503 "PROVIDER_UNAVAILABLE" _) modelAlias 2 1).outcome = _
  rw [tryAliasFrom_retry rfl, tryAliasFrom_retry rfl, tryAliasFrom_stop (.inr rfl)]
  rfl

theorem totalAttempts_exact_iff_503 :
    ∃ x, (executeWithRetryAndFallback defaultWithFallback
        (alwaysAnswers 503 "PROVIDER_UNAVAILABLE" _)).outcome = .error x ∧
      x.totalAttempts = some (invocations (executeWithRetryAndFallback defaultWithFallback
        (alwaysAnswers 503 "PROVIDER_UNAVAILABLE" _)).calls).length := by
  have hfail := congrArg Logged.outcome
    (@execute_fallback _ defaultWithFallback _ _ _ _ _ _ (by decide) (alwaysAnswers_503 _) rfl (alwaysAnswers_503 _))
  refine ⟨_, hfail, ?_⟩
  refine (totalAttempts_exact_iff defaultWithFallback (alwaysAnswers 503 "PROVIDER_UNAVAILABLE" _)
    (by decide) rfl hfail).mpr ⟨?_, ?_, rfl⟩
  · intro k _ _
    rfl
  · intro k _ _
    rfl

theorem alwaysAnswers_400 (modelAlias : String) :
    tryAlias defaultRetryPolicy (alwaysAnswers 400 "VALIDATION_FAILED" _) modelAlias =
      ⟨[.runOnce modelAlias 1], .ok ⟨.error (.http 400 (some "VALIDATION_FAILED") "failed" none), 1⟩⟩ := by
  show tryAliasFrom defaultRetryPolicy (alwaysAnswers 400 "VALIDATION_FAILED" _) modelAlias 2 1 = _
  rw [tryAliasFrom_stop (.inl rfl)]
  rfl

/-- A bad request is not retried: two attempts are made and six are reported. -/
theorem totalAttempts_bad_request :
    ∃ x, (executeWithRetryAndFallback defaultWithFallback
        (alwaysAnswers 400 "VALIDATION_FAILED" _)).outcome = .error x ∧
      x.totalAttempts = some 6 ∧
      (invocations (executeWithRetryAndFallback defaultWithFallback
        (alwaysAnswers 400 "VALIDATION_FAILED" _)).calls).length = 2 := by
  have hexec := @execute_fallback _ defaultWithFallback (alwaysAnswers 400 "VALIDATION_FAILED" _) _ _ _ _ _
    (by decide) (congrArg Logged.outcome (alwaysAnswers_400 _)) rfl (congrArg Logged.outcome (alwaysAnswers_400 _))
  rw [hexec]
  refine ⟨_, rfl, rfl, ?_⟩
  rw [invocations_append]
  show (invocations (tryAlias defaultRetryPolicy (alwaysAnswers 400 "VALIDATION_FAILED" _) "chat-default").calls ++
    invocations (tryAlias defaultRetryPolicy (alwaysAnswers 400 "VALIDATION_FAILED" _) "chat-small").calls).length = 2
  rw [alwaysAnswers_400, alwaysAnswers_400]
  rfl

end AiGateway
