import AiGateway.RateLimit.TokenBucket
import AiGateway.Lib.Run
import AiGateway.Lib.Table

/- The concurrent-stream counter: `SmartRateLimiterService.checkConcurrentStreams` and
   `releaseStream` for one gateway key, as the interleaving of their Redis commands.

   A check is `INCR`, then `EXPIRE 300`, then (over the limit) `DECR`; a release is one
   `DECR`. The two ends test separately whether Redis is ready, and the key's 300 s are
   renewed by checks only. `stream_counter_sound` proves that over every interleaving the
   counter stays nonnegative and the counted streams inside the limit, as long as

   * the key does not expire while a check or a counted stream still stands behind it,
   * a stream that was admitted without being counted is not decremented on release,
   * no command of a check over the limit is rejected (the `catch` admits such a check).

   The first two are real: `stream_counter_negative` is a stream that outlives 300 s. -/
namespace AiGateway

/-- Where one `checkConcurrentStreams` call, and the stream it admits, stands. -/
inductive StreamCall where
  | incremented (current : ℤ)  -- `INCR` returned `current`, `EXPIRE` is next
  | denying                    -- over the limit, `DECR` is next
  | denied
  | admitted (counted : Bool)  -- allowed and not yet released; `counted` if its `INCR` was executed
  | released
  deriving DecidableEq, Repr

/-- The counter key, its expiry, the clock (ms), and every call so far. -/
structure StreamCounter where
  counter : Option ℤ
  expiresAt : Option ℕ
  now : ℕ
  calls : List StreamCall
  deriving DecidableEq, Repr

def StreamCounter.initial : StreamCounter := ⟨none, none, 0, []⟩

/-- `EXPIRE key 300`, in ms. -/
def streamsTtlMs : ℕ := 300000

/-- One Redis command of one call (by position), a call that finds Redis not ready or whose
command is rejected, or the passing of time. -/
inductive StreamAction where
  | checkSkipped                -- a new check: Redis not ready, no client, or `INCR` rejected
  | incr                        -- a new check's `INCR`
  | expire (i : ℕ)
  | expireRejected (i : ℕ)
  | decrDenied (i : ℕ)          -- the `DECR` of a check over the limit
  | decrDeniedRejected (i : ℕ)
  | release (i : ℕ)             -- `releaseStream` with Redis ready: its `DECR`
  | releaseSkipped (i : ℕ)      -- `releaseStream`: not ready, no client, or `DECR` rejected
  | elapse (ms : ℕ)
  deriving DecidableEq, Repr

/-- The answer of a check once its `INCR` returned `current`. -/
def streamsDecision (maxConcurrent : ℕ) (current : ℤ) (now : ℕ) : RateLimitResult :=
  if current ≤ maxConcurrent then ⟨true, maxConcurrent - current, now + streamsTtlMs, none⟩
  else ⟨false, 0, now + streamsTtlMs,
    some ("Max concurrent streams (" ++ toString maxConcurrent ++ ") exceeded for gateway key.")⟩

namespace StreamCounter

/-- `INCR` / `DECR`: a missing key counts from 0 and gets no expiry. -/
def add (s : StreamCounter) (d : ℤ) : StreamCounter := { s with counter := some (s.counter.getD 0 + d) }

/-- `EXPIRE`: no effect on a missing key. -/
def setExpire (s : StreamCounter) : StreamCounter :=
  if s.counter.isSome then { s with expiresAt := some (s.now + streamsTtlMs) } else s

def move (s : StreamCounter) (i : ℕ) (c : StreamCall) : StreamCounter := { s with calls := s.calls.set i c }

/-- Time passes; the key is dropped once its expiry is reached. -/
def advance (s : StreamCounter) (ms : ℕ) : StreamCounter :=
  if s.expiresAt.any (· ≤ s.now + ms) then { s with counter := none, expiresAt := none, now := s.now + ms }
  else { s with now := s.now + ms }

end StreamCounter

open StreamCounter in
def streamStep (maxConcurrent : ℕ) (s : StreamCounter) : StreamAction → Option StreamCounter
  | .checkSkipped => some { s with calls := s.calls ++ [.admitted false] }
  | .incr =>
    let s' := s.add 1
    some { s' with calls := s.calls ++ [.incremented (s.counter.getD 0 + 1)] }
  | .expire i =>
    match s.calls[i]? with
    | some (.incremented current) =>
      if (streamsDecision maxConcurrent current s.now).allowed then some (s.setExpire.move i (.admitted true))
      else some (s.setExpire.move i .denying)
    | _ => none
  | .expireRejected i =>
    match s.calls[i]? with
    | some (.incremented _) => some (s.move i (.admitted true))
    | _ => none
  | .decrDenied i =>
    match s.calls[i]? with
    | some .denying => some ((s.add (-1)).move i .denied)
    | _ => none
  | .decrDeniedRejected i =>
    match s.calls[i]? with
    | some .denying => some (s.move i (.admitted true))
    | _ => none
  | .release i =>
    match s.calls[i]? with
    | some (.admitted _) => some ((s.add (-1)).move i .released)
    | _ => none
  | .releaseSkipped i =>
    match s.calls[i]? with
    | some (.admitted _) => some (s.move i .released)
    | _ => none
  | .elapse ms => some (s.advance ms)

/-- The call still stands behind one unit of the counter. -/
def StreamCall.holds : StreamCall → Bool
  | .incremented _ | .denying | .admitted true => true
  | _ => false

/-- The call is, or is about to be, an admitted stream that was counted. -/
def StreamCall.granted (maxConcurrent : ℕ) : StreamCall → Bool
  | .incremented current => current ≤ maxConcurrent
  | .admitted true => true
  | _ => false

/-- Allowed, not yet released streams that were counted in Redis. -/
def openCounted (s : StreamCounter) : ℕ := s.calls.count (.admitted true)

/-- The counter is not negative and the counted streams stay inside the limit. -/
def CounterSound (maxConcurrent : ℕ) (s : StreamCounter) : Prop :=
  0 ≤ s.counter.getD 0 ∧ openCounted s ≤ maxConcurrent

instance (maxConcurrent : ℕ) (s : StreamCounter) : Decidable (CounterSound maxConcurrent s) :=
  inferInstanceAs (Decidable (_ ∧ _))

/-- The condition on one step: no expiry under a call that holds a unit, no decrement for a
stream that was not counted, no rejected command for a check over the limit. -/
def Undisturbed (maxConcurrent : ℕ) (s : StreamCounter) : StreamAction → Prop
  | .elapse ms => s.expiresAt.any (· ≤ s.now + ms) = true → ∀ c ∈ s.calls, c.holds = false
  | .release i => s.calls[i]? = some (.admitted false) → False
  | .expireRejected i => ∀ c ∈ s.calls[i]?, c.granted maxConcurrent = true
  | .decrDeniedRejected _ => False
  | _ => True

instance (maxConcurrent : ℕ) (s : StreamCounter) : ∀ a, Decidable (Undisturbed maxConcurrent s a)
  | .elapse _ => inferInstanceAs (Decidable (_ = true → ∀ c ∈ s.calls, _ = false))
  | .release _ => inferInstanceAs (Decidable (_ = _ → False))
  | .expireRejected i => inferInstanceAs (Decidable (∀ c ∈ s.calls[i]?, _ = true))
  | .decrDeniedRejected _ => inferInstanceAs (Decidable False)
  | .checkSkipped | .incr | .expire _ | .decrDenied _ | .releaseSkipped _ => inferInstanceAs (Decidable True)

/-! ## The invariant -/

/-- Every call that holds a unit is behind the counter, and the grants fit the limit. -/
structure CounterInv (maxConcurrent : ℕ) (s : StreamCounter) : Prop where
  holders_le : (s.calls.countP StreamCall.holds : ℤ) ≤ s.counter.getD 0
  granted_le : s.calls.countP (StreamCall.granted maxConcurrent) ≤ maxConcurrent

variable {maxConcurrent : ℕ} {s s' : StreamCounter}

theorem granted_le_holders (maxConcurrent : ℕ) (l : List StreamCall) :
    l.countP (StreamCall.granted maxConcurrent) ≤ l.countP StreamCall.holds := by
  apply List.countP_mono_left
  intro c _ hc
  match c, hc with
  | .incremented _, _ => rfl
  | .admitted true, _ => rfl

theorem CounterInv.sound (h : CounterInv maxConcurrent s) : CounterSound maxConcurrent s := by
  refine ⟨?_, ?_⟩
  · have := h.holders_le
    omega
  · apply Nat.le_trans _ h.granted_le
    apply List.countP_mono_left
    intro c _ hc
    rw [beq_iff_eq] at hc
    subst hc
    rfl

/-- A move of one call that gives up no fewer units than the counter does, and grants
nothing new, keeps the invariant. -/
theorem CounterInv.move {i : ℕ} {old : StreamCall} (h : CounterInv maxConcurrent s) (new : StreamCall) (d : ℤ)
    (hi : s.calls[i]? = some old) (hcalls : s'.calls = s.calls.set i new)
    (hcounter : s'.counter.getD 0 = s.counter.getD 0 + d)
    (hholds : (if new.holds then 1 else 0) ≤ (if old.holds then 1 else 0) + d)
    (hgrant : (if new.granted maxConcurrent then 1 else 0) ≤
      (if old.granted maxConcurrent then 1 else 0)) :
    CounterInv maxConcurrent s' := by
  have h1 := Table.countP_set_add StreamCall.holds new hi
  have h2 := Table.countP_set_add (StreamCall.granted maxConcurrent) new hi
  have h3 := h.holders_le
  have h4 := h.granted_le
  refine ⟨?_, ?_⟩
  · rw [hcalls, hcounter]
    have h1' : ((s.calls.set i new).countP StreamCall.holds : ℤ) + (if old.holds then 1 else 0) =
        s.calls.countP StreamCall.holds + (if new.holds then 1 else 0) := by exact_mod_cast h1
    omega
  · rw [hcalls]
    omega

@[simp] theorem setExpire_calls : s.setExpire.calls = s.calls := by
  unfold StreamCounter.setExpire; split <;> rfl

@[simp] theorem setExpire_counter : s.setExpire.counter = s.counter := by
  unfold StreamCounter.setExpire; split <;> rfl

@[simp] theorem add_counter (d : ℤ) : (s.add d).counter.getD 0 = s.counter.getD 0 + d := rfl

theorem streamStep_incr (h : CounterInv maxConcurrent s) :
    CounterInv maxConcurrent
      { s.add 1 with calls := s.calls ++ [.incremented (s.counter.getD 0 + 1)] } := by
  have h3 := h.holders_le
  have h4 := h.granted_le
  have h5 := granted_le_holders maxConcurrent s.calls
  refine ⟨?_, ?_⟩
  · simp [StreamCall.holds, StreamCounter.add]
    omega
  · -- a granted `INCR` saw at least as many units as there are grants
    simp only [List.countP_append, List.countP_singleton, StreamCall.granted]
    by_cases hcur : s.counter.getD 0 + 1 ≤ maxConcurrent
    · simp only [hcur, decide_true, if_true]; omega
    · simp only [hcur, decide_false, Bool.false_eq_true, if_false]; omega

theorem streamStep_advance {ms : ℕ} (h : CounterInv maxConcurrent s)
    (hgood : Undisturbed maxConcurrent s (.elapse ms)) : CounterInv maxConcurrent (s.advance ms) := by
  unfold StreamCounter.advance
  split
  · next hexp =>
    refine ⟨?_, h.granted_le⟩
    have h0 : s.calls.countP StreamCall.holds = 0 := by
      rw [List.countP_eq_zero]
      intro c hc
      simp [hgood hexp c hc]
    simp [h0]
  · exact ⟨h.holders_le, h.granted_le⟩

theorem streamStep_inv {a : StreamAction} (h : CounterInv maxConcurrent s)
    (hgood : Undisturbed maxConcurrent s a) (hstep : streamStep maxConcurrent s a = some s') :
    CounterInv maxConcurrent s' := by
  cases a with
  | checkSkipped =>
    cases hstep
    exact ⟨by simpa [StreamCall.holds] using h.holders_le,
      by simpa [StreamCall.granted] using h.granted_le⟩
  | incr => cases hstep; exact streamStep_incr h
  | elapse ms => cases hstep; exact streamStep_advance h hgood
  | expire i =>
    simp only [streamStep] at hstep
    split at hstep
    · next current hi =>
      split at hstep
      · next hallowed =>
        cases hstep
        have hle : current ≤ maxConcurrent := by
          by_contra hc; simp [streamsDecision, hc] at hallowed
        exact h.move (.admitted true) 0 hi (by simp [StreamCounter.move])
          (by simp [StreamCounter.move]) (by simp [StreamCall.holds]) (by simp [StreamCall.granted, hle])
      · cases hstep
        exact h.move .denying 0 hi (by simp [StreamCounter.move])
          (by simp [StreamCounter.move]) (by simp [StreamCall.holds]) (by simp [StreamCall.granted])
    · cases hstep
  -- Admitted without a decision: the condition says that the count allowed it.
  | expireRejected i =>
    simp only [streamStep] at hstep
    split at hstep
    · next current hi =>
      cases hstep
      have hle : current ≤ maxConcurrent := by simpa [StreamCall.granted] using hgood _ hi
      exact h.move (.admitted true) 0 hi rfl (by simp [StreamCounter.move]) (by simp [StreamCall.holds])
        (by simp [StreamCall.granted, hle])
    · cases hstep
  | decrDenied i =>
    simp only [streamStep] at hstep
    split at hstep
    · next hi =>
      cases hstep
      exact h.move .denied (-1) hi rfl (by simp [StreamCounter.move])
        (by simp [StreamCall.holds]) (by simp [StreamCall.granted])
    · cases hstep
  -- The slot of a denied call stays counted.
  | decrDeniedRejected i => exact hgood.elim
  -- A release whose call took no slot counts below the streams that are open.
  | release i =>
    simp only [streamStep] at hstep
    split at hstep
    · next counted hi =>
      cases hstep
      cases counted with
      | false => exact (hgood hi).elim
      | true =>
        exact h.move .released (-1) hi rfl (by simp [StreamCounter.move])
          (by simp [StreamCall.holds]) (by simp [StreamCall.granted])
    · cases hstep
  | releaseSkipped i =>
    simp only [streamStep] at hstep
    split at hstep
    · next counted hi =>
      cases hstep
      exact h.move .released 0 hi rfl (by simp [StreamCounter.move])
        (by cases counted <;> simp [StreamCall.holds]) (by simp [StreamCall.granted])
    · cases hstep

/-! ## Whole runs -/

theorem stream_counter_sound (maxConcurrent : ℕ) (acts : List StreamAction) (s : StreamCounter)
    (hgood : Runs.Along (streamStep maxConcurrent) (Undisturbed maxConcurrent) .initial acts)
    (hrun : Runs.run (streamStep maxConcurrent) .initial acts = some s) :
    CounterSound maxConcurrent s := by
  have hinit : CounterInv maxConcurrent .initial := ⟨by decide, Nat.zero_le _⟩
  have hinv : CounterInv maxConcurrent s :=
    Runs.run_invariant_along (fun _ _ _ h hg hs => streamStep_inv h hg hs) hinit hgood hrun
  exact hinv.sound

/-- Two streams under a limit of one: the second is denied, the first released. -/
theorem stream_counter_sound_two_streams :
    CounterSound 1 ⟨some 0, some 300007, 7, [.released, .denied]⟩ :=
  stream_counter_sound 1
    [.incr, .expire 0, .incr, .elapse 7, .expire 1, .decrDenied 1, .release 0] _ (by decide) (by decide)

/-- A stream that lasts longer than 300 s is released after its key has expired: the counter
becomes -1, and the next two streams are both admitted under a limit of one. -/
theorem stream_counter_negative :
    ¬ ∀ (maxConcurrent : ℕ) (acts : List StreamAction) (s : StreamCounter),
      Runs.run (streamStep maxConcurrent) .initial acts = some s → CounterSound maxConcurrent s := by
  intro h
  have h1 := h 1 [.incr, .expire 0, .elapse 300000, .release 0] ⟨some (-1), none, 300000, [.released]⟩
    (by decide)
  exact absurd h1 (by decide)

end AiGateway
