import Mathlib.Algebra.Group.Nat.Defs
import Mathlib.Data.List.Basic

/- The control of `ResilientExecutor.executeWithRetryAndFallback`: which attempt runs next
   after an attempt has failed, with its retry policy, its backoff and its fallback alias,
   and what the executor throws in the end. The attempts themselves are the caller's. -/
namespace AiGateway

/-- `details` of an exhausted exception. -/
structure ExhaustedDetails where
  primaryAlias : String
  fallbackAlias : Option String
  totalAttempts : Option ℕ
  primaryError : Option String
  fallbackError : Option String
  deriving DecidableEq, Repr

/-- A thrown value: an `HttpException` (with the `code` of its response object, if it is one)
or anything else. -/
inductive ThrownError where
  | http (status : ℕ) (code : Option String) (message : String) (details : Option ExhaustedDetails)
  | other (message : String)
  deriving DecidableEq, Repr

def extractErrorMessage : ThrownError → String
  | .http _ _ message _ => message
  | .other message => message

def isRetryableHttpError (e : ThrownError) (onStatus : List ℕ) : Bool :=
  match e with
  | .http status _ _ _ => onStatus.contains status
  | .other _ => false

/-- `RetryPolicy`; `MaxAttempts` is at least 1 by its brand. -/
structure RetryPolicy where
  maxAttempts : ℕ
  onStatus : List ℕ
  timeoutMs : Option ℕ
  initialDelayMs : ℕ
  maxDelayMs : ℕ
  maxAttempts_pos : 1 ≤ maxAttempts
  deriving DecidableEq, Repr

/-- `RETRY_POLICY_DEFAULTS`. -/
def defaultRetryPolicy : RetryPolicy where
  maxAttempts := 3
  onStatus := [429, 500, 502, 503, 504]
  timeoutMs := some 30000
  initialDelayMs := 500
  maxDelayMs := 8000
  maxAttempts_pos := by decide

/-- The wait after failed attempt `attempt`, counted from 1. -/
def computeBackoffDelayMs (attempt : ℕ) (retry : RetryPolicy) : ℕ :=
  min retry.maxDelayMs (retry.initialDelayMs * 2 ^ (attempt - 1))

structure ExecutionOptions where
  primaryAlias : String
  fallbackAlias : Option String
  retry : RetryPolicy
  deriving DecidableEq, Repr

/-- `assertNoFallbackCycle`. -/
def fallbackCycleError (o : ExecutionOptions) : Option ThrownError :=
  if o.fallbackAlias = some o.primaryAlias then
    some (.http 400 (some "VALIDATION_FAILED")
      ("Circular fallback detected: alias \"" ++ o.primaryAlias ++ "\" cannot fallback to itself") none)
  else none

def timeoutError (timeoutMs : ℕ) : ThrownError :=
  .http 504 (some "PROVIDER_TIMEOUT") ("Request timeout after " ++ toString timeoutMs ++ "ms") none

def exhaustedMessage (o : ExecutionOptions) : String :=
  "Provider exhausted after " ++ toString o.retry.maxAttempts ++ " retries on primary (" ++ o.primaryAlias ++
    ")" ++ o.fallbackAlias.elim "" fun fallback => " and fallback (" ++ fallback ++ ")"

/-- `toExhaustedException`: the primary error's status and code when it has a code. -/
def toExhaustedException (o : ExecutionOptions) (primaryError fallbackError : ThrownError) : ThrownError :=
  match primaryError with
  | .http status (some code) _ _ =>
    .http status (some code) (exhaustedMessage o)
      (some ⟨o.primaryAlias, o.fallbackAlias,
        some (o.retry.maxAttempts * if o.fallbackAlias.isSome then 2 else 1), none, none⟩)
  | _ =>
    .http 502 (some "PROVIDER_UNAVAILABLE") (exhaustedMessage o)
      (some ⟨o.primaryAlias, o.fallbackAlias, none, some (extractErrorMessage primaryError),
        o.fallbackAlias.map fun _ => extractErrorMessage fallbackError⟩)

inductive Leg where
  | primary | fallback
  deriving DecidableEq, Repr

def ExecutionOptions.legAlias (o : ExecutionOptions) : Leg → String
  | .primary => o.primaryAlias
  | .fallback => o.fallbackAlias.getD o.primaryAlias

/-- Attempt `n` on a leg; on the fallback leg the primary's last error is kept. -/
structure AttemptNo where
  leg : Leg
  n : ℕ
  primaryError : Option ThrownError
  deriving DecidableEq, Repr

inductive AfterError where
  | backoff (delayMs : ℕ)
  | next (a : AttemptNo)
  | fail (e : ThrownError)
  deriving DecidableEq, Repr

/-- What follows attempt `a` after its error: a wait before the next attempt on the leg, the
first attempt on the fallback, or the end. -/
def afterError (o : ExecutionOptions) (a : AttemptNo) (e : ThrownError) : AfterError :=
  if isRetryableHttpError e o.retry.onStatus && a.n < o.retry.maxAttempts then
    .backoff (computeBackoffDelayMs a.n o.retry)
  else
    match a.leg with
    | .primary => if o.fallbackAlias.isSome then .next ⟨.fallback, 1, some e⟩ else .fail e
    | .fallback => .fail (toExhaustedException o (a.primaryError.getD e) e)

end AiGateway
