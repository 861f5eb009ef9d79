import AiGateway.Config.Clients
import AiGateway.Lib.Meter
import Mathlib.Algebra.Order.Field.Rat
import Mathlib.Data.Rat.Cast.Order

/- The smart rate limiter's token bucket: `SmartRateLimiterService.checkRateLimit` and the
   Lua script it evaluates, for one gateway key.

   The script keeps whole tokens: it refills `⌊elapsed / 1000 · rps⌋` since the last allowed
   request, caps the sum at `burst`, and writes the bucket back (with `EXPIRE 60`) only when
   it lets the request through. A missing key is a full bucket, so the 60 s expiry refills
   whatever the rate would have refilled. `allowed_window_bound_iff` says exactly when this
   stays inside the bucket's contract: the number of requests let through in a window of
   `D` ms is at most `burst + rps · D / 1000`, for every arrival sequence, if and only if
   `burst ≤ 60 · rps`, that is when 60 s are enough to fill an empty bucket.

   Arithmetic is exact (`elapsed / window * rate` is a rational number, floored). -/
namespace AiGateway

/-- The hash under `rateLimit:key:<gatewayKey>`, and the instant its `EXPIRE` runs out. -/
structure BucketHash where
  tokens : ℤ
  lastRefill : ℤ
  expiresAt : ℤ
  deriving DecidableEq, Repr

/-- The reply of the script: `{allowed, tokens, lastRefill}`. -/
structure ScriptReply where
  allowed : Bool
  tokens : ℤ
  lastRefill : ℤ
  deriving DecidableEq, Repr

def windowMs : ℤ := 1000

/-- `EXPIRE key 60`, in ms. -/
def bucketTtlMs : ℤ := 60000

/-- The tokens at hand when the script decides. -/
def refilledTokens (now rate burst window : ℤ) : Option BucketHash → ℤ
  | none => burst
  | some bucket => min burst (bucket.tokens + (now - bucket.lastRefill) * rate / window)

/-- The Lua script: `bucket` is what `HGETALL` finds. `lastRefill` is `now` on both paths. -/
def tokenBucketScript (now rate burst window : ℤ) (bucket : Option BucketHash) :
    ScriptReply × Option BucketHash :=
  let tokens := refilledTokens now rate burst window bucket
  if 1 ≤ tokens then
    (⟨true, tokens - 1, now⟩, some ⟨tokens - 1, now, now + bucketTtlMs⟩)
  else (⟨false, 0, now⟩, bucket)

/-- One `checkRateLimit` call: its `Date.now()`, and whether Redis has dropped a key whose
60 s run out in this very millisecond (the documented accuracy of `EXPIRE` is 0 to 1 ms;
earlier the key is there, later it is gone). -/
structure Arrival where
  now : ℤ
  dropped : Bool
  deriving DecidableEq, Repr

/-- The key as a call finds it. -/
def liveBucket (a : Arrival) (bucket : Option BucketHash) : Option BucketHash :=
  bucket.filter fun b => a.now < b.expiresAt || (a.now == b.expiresAt && !a.dropped)

/-- `RateLimitResult`; `resetAt` in ms. -/
structure RateLimitResult where
  allowed : Bool
  remaining : ℤ
  resetAt : ℤ
  reason : Option String
  deriving DecidableEq, Repr

/-- How Redis answers a call: not ready, no client, a rejected `EVAL`, or the script's reply. -/
inductive RedisAvailability where
  | notReady | noClient | rejects | available
  deriving DecidableEq, Repr

/-- `checkRateLimit`: fail-open unless the script itself says no. -/
def checkRateLimit (limits : ClientRateLimit) (redis : RedisAvailability) (a : Arrival)
    (bucket : Option BucketHash) : RateLimitResult × Option BucketHash :=
  match redis with
  | .notReady => (⟨true, 9999999, a.now, none⟩, bucket)
  | .noClient => (⟨true, 999, a.now, none⟩, bucket)
  | .rejects => (⟨true, 999, a.now, none⟩, bucket)
  | .available =>
    let (reply, bucket') := tokenBucketScript a.now limits.rps limits.burst windowMs (liveBucket a bucket)
    if reply.allowed then (⟨true, reply.tokens, reply.lastRefill + windowMs, none⟩, bucket')
    else (⟨false, 0, a.now, some "Rate limit exceeded for gateway key."⟩, bucket')

/-- The instants of the requests let through, over a whole arrival sequence with Redis
available. -/
def allowedTimes (limits : ClientRateLimit) : Option BucketHash → List Arrival → List ℤ
  | _, [] => []
  | bucket, a :: rest =>
    let (result, bucket') := checkRateLimit limits .available a bucket
    if result.allowed then a.now :: allowedTimes limits bucket' rest
    else allowedTimes limits bucket' rest

/-- The allowed requests inside the closed window `[w, w + D]`. -/
def allowedIn (limits : ClientRateLimit) (arrivals : List Arrival) (w D : ℚ) : Nat :=
  ((allowedTimes limits none arrivals).filter fun t : ℤ => w ≤ (t : ℚ) ∧ (t : ℚ) ≤ w + D).length

/-- Arrival times do not decrease. -/
def Ordered (arrivals : List Arrival) : Prop := (arrivals.map Arrival.now).Pairwise (· ≤ ·)

/-! ## What one call does -/

section OneCall
variable (limits : ClientRateLimit) (a : Arrival) (bucket : Option BucketHash)

/-- The whole tokens one call finds in the bucket. -/
def tokensAt : ℤ := refilledTokens a.now limits.rps limits.burst windowMs (liveBucket a bucket)

theorem tokensAt_le_burst : tokensAt limits a bucket ≤ limits.burst := by
  unfold tokensAt refilledTokens
  cases liveBucket a bucket with
  | none => exact le_refl _
  | some b => exact min_le_left _ _

theorem checkRateLimit_allows (h : 1 ≤ tokensAt limits a bucket) :
    checkRateLimit limits .available a bucket =
      (⟨true, tokensAt limits a bucket - 1, a.now + windowMs, none⟩,
        some ⟨tokensAt limits a bucket - 1, a.now, a.now + bucketTtlMs⟩) := by
  simp only [tokensAt] at h
  simp only [checkRateLimit, tokenBucketScript, tokensAt, if_pos h, if_true]

theorem checkRateLimit_denies (h : ¬ 1 ≤ tokensAt limits a bucket) :
    checkRateLimit limits .available a bucket =
      (⟨false, 0, a.now, some "Rate limit exceeded for gateway key."⟩, liveBucket a bucket) := by
  simp only [tokensAt] at h
  simp only [checkRateLimit, tokenBucketScript, if_neg h, Bool.false_eq_true, if_false]

end OneCall

/-- The key is still there, or its 60 s are over. -/
theorem liveBucket_cases (a : Arrival) (b : BucketHash) :
    liveBucket a (some b) = some b ∨ (liveBucket a (some b) = none ∧ b.expiresAt ≤ a.now) := by
  by_cases h : (a.now < b.expiresAt || (a.now == b.expiresAt && !a.dropped)) = true
  · left; simp [liveBucket, Option.filter, h]
  · right
    refine ⟨by simp [liveBucket, Option.filter, h], ?_⟩
    simp only [Bool.or_eq_true, decide_eq_true_eq, not_or, not_lt] at h
    exact h.1

/-- Where 60 s fill an empty bucket, a call never finds more than what the last allowed
request left and the rate has added since, whether or not the key expired in between. -/
theorem tokensAt_le_refill {limits : ClientRateLimit} {a : Arrival} {b : BucketHash}
    (hfit : limits.burst ≤ 60 * limits.rps) (hb : b.expiresAt = b.lastRefill + bucketTtlMs)
    (htok : 0 ≤ b.tokens) :
    (tokensAt limits a (some b) : ℚ) ≤
      b.tokens + (limits.rps / 1000 : ℚ) * ((a.now : ℚ) - (b.lastRefill : ℚ)) := by
  unfold tokensAt
  rcases liveBucket_cases a b with hlive | ⟨hgone, hexp⟩
  · rw [hlive, refilledTokens]
    have hfloor : (a.now - b.lastRefill) * limits.rps / windowMs * 1000 ≤
        (a.now - b.lastRefill) * limits.rps := Int.ediv_mul_le _ (by decide)
    have hfloorQ : (((a.now - b.lastRefill) * limits.rps / windowMs : ℤ) : ℚ) * 1000 ≤
        ((a.now : ℚ) - b.lastRefill) * limits.rps := by exact_mod_cast hfloor
    have hmin : ((min (limits.burst : ℤ)
        (b.tokens + (a.now - b.lastRefill) * limits.rps / windowMs) : ℤ) : ℚ) ≤
        b.tokens + (((a.now - b.lastRefill) * limits.rps / windowMs : ℤ) : ℚ) := by
      exact_mod_cast min_le_right _ _
    linarith
  · -- a fresh bucket: the 60 s that passed are worth at least `burst` tokens
    rw [hgone, refilledTokens]
    have helapsed : (60000 : ℚ) ≤ (a.now : ℚ) - b.lastRefill := by
      rw [hb, bucketTtlMs] at hexp
      have : (b.lastRefill : ℚ) + 60000 ≤ a.now := by exact_mod_cast hexp
      linarith
    have hrate : (limits.rps : ℚ) * 60000 ≤ limits.rps * ((a.now : ℚ) - b.lastRefill) :=
      mul_le_mul_of_nonneg_left helapsed (Nat.cast_nonneg _)
    have hfitQ : (limits.burst : ℚ) ≤ 60 * limits.rps := by exact_mod_cast hfit
    have htokQ : (0 : ℚ) ≤ b.tokens := by exact_mod_cast htok
    push_cast
    linarith

/-! ## Whole arrival sequences -/

/-- The allowed requests with the `remaining` tokens each was told. -/
def admissions (limits : ClientRateLimit) :
    Option BucketHash → List Arrival → List (Meter.Admission ℚ)
  | _, [] => []
  | bucket, a :: rest =>
    let (result, bucket') := checkRateLimit limits .available a bucket
    if result.allowed then ⟨a.now, result.remaining⟩ :: admissions limits bucket' rest
    else admissions limits bucket' rest

section Sequences
variable {limits : ClientRateLimit}

theorem admissions_at (limits : ClientRateLimit) (bucket : Option BucketHash) (arrivals : List Arrival) :
    (admissions limits bucket arrivals).map Meter.Admission.at_ =
      (allowedTimes limits bucket arrivals).map (fun t : ℤ => (t : ℚ)) := by
  induction arrivals generalizing bucket with
  | nil => rfl
  | cons a rest ih =>
    simp only [admissions, allowedTimes]
    split
    · simp only [List.map_cons, ih]
    · exact ih _

theorem admissions_left (bucket : Option BucketHash) (arrivals : List Arrival) :
    ∀ x ∈ admissions limits bucket arrivals, 0 ≤ x.left ∧ x.left ≤ (limits.burst : ℚ) - 1 := by
  induction arrivals generalizing bucket with
  | nil => simp [admissions]
  | cons a rest ih =>
    intro x hx
    by_cases h : 1 ≤ tokensAt limits a bucket
    · simp only [admissions, checkRateLimit_allows limits a bucket h, if_true, List.mem_cons] at hx
      rcases hx with rfl | hx
      · have hle := tokensAt_le_burst limits a bucket
        have h1 : (1 : ℚ) ≤ tokensAt limits a bucket := by exact_mod_cast h
        have h2 : (tokensAt limits a bucket : ℚ) ≤ limits.burst := by exact_mod_cast hle
        push_cast
        constructor <;> linarith
      · exact ih _ x hx
    · simp only [admissions, checkRateLimit_denies limits a bucket h, Bool.false_eq_true,
        if_false] at hx
      exact ih _ x hx

/-- A bucket that holds no token when full lets nothing through. -/
theorem admissions_eq_nil_of_burst (hburst : ¬ (1 : ℤ) ≤ limits.burst) (bucket : Option BucketHash)
    (arrivals : List Arrival) : admissions limits bucket arrivals = [] := by
  induction arrivals generalizing bucket with
  | nil => rfl
  | cons a rest ih =>
    have h : ¬ 1 ≤ tokensAt limits a bucket :=
      fun h => hburst (h.trans (tokensAt_le_burst limits a bucket))
    simp only [admissions, checkRateLimit_denies limits a bucket h, Bool.false_eq_true, if_false]
    exact ih _

/-- From a stored bucket on, each admission is paid for by the one before it. -/
theorem admissions_chain_some (hfit : limits.burst ≤ 60 * limits.rps) :
    ∀ (arrivals : List Arrival) (b : BucketHash), b.expiresAt = b.lastRefill + bucketTtlMs →
      0 ≤ b.tokens → (∀ a ∈ arrivals, b.lastRefill ≤ a.now) → Ordered arrivals →
      ((⟨b.lastRefill, b.tokens⟩ : Meter.Admission ℚ) :: admissions limits (some b) arrivals).IsChain
        (Meter.Follows ((limits.rps : ℚ) / 1000)) := by
  intro arrivals
  induction arrivals with
  | nil => intro b _ _ _ _; simp [admissions]
  | cons a rest ih =>
    intro b hexp htok hlater hord
    have hord' : Ordered rest := (List.pairwise_cons.mp hord).2
    have hrest : ∀ x ∈ rest, a.now ≤ x.now := fun x hx =>
      (List.pairwise_cons.mp hord).1 x.now (List.mem_map_of_mem hx)
    by_cases h : 1 ≤ tokensAt limits a (some b)
    · simp only [admissions, checkRateLimit_allows limits a (some b) h, if_true]
      refine List.isChain_cons_cons.mpr ⟨⟨?_, ?_⟩, ?_⟩
      · show (b.lastRefill : ℚ) ≤ a.now
        exact_mod_cast hlater a List.mem_cons_self
      · have := tokensAt_le_refill (a := a) hfit hexp htok
        push_cast
        linarith
      · exact ih ⟨_, _, _⟩ rfl (by simp only; omega) hrest hord'
    · simp only [admissions, checkRateLimit_denies limits a (some b) h, Bool.false_eq_true, if_false]
      rcases liveBucket_cases a b with hlive | ⟨hgone, -⟩
      · rw [hlive]
        exact ih b hexp htok (fun x hx => hlater x (List.mem_cons_of_mem a hx)) hord'
      · -- a dropped key denies only where `burst = 0`, and then nothing follows
        have hburst : ¬ (1 : ℤ) ≤ limits.burst := by
          simpa [tokensAt, hgone, refilledTokens] using h
        rw [hgone, admissions_eq_nil_of_burst hburst]
        exact List.isChain_singleton _

theorem admissions_chain (hfit : limits.burst ≤ 60 * limits.rps) (arrivals : List Arrival)
    (hord : Ordered arrivals) :
    (admissions limits none arrivals).IsChain (Meter.Follows ((limits.rps : ℚ) / 1000)) := by
  induction arrivals with
  | nil => simp [admissions]
  | cons a rest ih =>
    have hord' : Ordered rest := (List.pairwise_cons.mp hord).2
    have hrest : ∀ x ∈ rest, a.now ≤ x.now := fun x hx =>
      (List.pairwise_cons.mp hord).1 x.now (List.mem_map_of_mem hx)
    by_cases h : 1 ≤ tokensAt limits a none
    · simp only [admissions, checkRateLimit_allows limits a none h, if_true]
      exact admissions_chain_some hfit rest ⟨_, _, _⟩ rfl (by simp only; omega) hrest hord'
    · simp only [admissions, checkRateLimit_denies limits a none h, Bool.false_eq_true, if_false]
      exact ih hord'

theorem admissions_metered (hfit : limits.burst ≤ 60 * limits.rps) {arrivals : List Arrival}
    (hord : Ordered arrivals) :
    Meter.Metered ((limits.rps : ℚ) / 1000) limits.burst (admissions limits none arrivals) where
  chain := admissions_chain hfit arrivals hord
  left_nonneg := fun x hx => (admissions_left none arrivals x hx).1
  left_le := fun x hx => (admissions_left none arrivals x hx).2

theorem allowedIn_eq (arrivals : List Arrival) (w D : ℚ) :
    allowedIn limits arrivals w D =
      ((admissions limits none arrivals).filter fun x => w ≤ x.at_ ∧ x.at_ ≤ w + D).length := by
  have hmap := congrArg (fun l => (l.filter fun t => decide (w ≤ t ∧ t ≤ w + D)).length)
    (admissions_at limits none arrivals)
  simp only [List.filter_map, List.length_map, Function.comp_def] at hmap
  exact hmap.symm

/-- `n` calls in one millisecond are all let through by a bucket last written in that
millisecond with `n` tokens left. -/
theorem allowedTimes_replicate (now : ℤ) (dropped : Bool) (rest : List Arrival) :
    ∀ (n : ℕ) (k : ℤ), (n : ℤ) ≤ k → k ≤ limits.burst →
      allowedTimes limits (some ⟨k, now, now + bucketTtlMs⟩) (List.replicate n ⟨now, dropped⟩ ++ rest) =
        List.replicate n now ++ allowedTimes limits (some ⟨k - n, now, now + bucketTtlMs⟩) rest := by
  intro n
  induction n with
  | zero => intro k _ _; simp
  | succ n ih =>
    intro k hn hcap
    push_cast at hn
    have hlive : liveBucket ⟨now, dropped⟩ (some ⟨k, now, now + bucketTtlMs⟩) =
        some ⟨k, now, now + bucketTtlMs⟩ := by
      simp [liveBucket, Option.filter, bucketTtlMs]
    have htokens : tokensAt limits ⟨now, dropped⟩ (some ⟨k, now, now + bucketTtlMs⟩) = k := by
      simp [tokensAt, hlive, refilledTokens, hcap]
    have h1 : 1 ≤ tokensAt limits ⟨now, dropped⟩ (some ⟨k, now, now + bucketTtlMs⟩) := by
      rw [htokens]; omega
    simp only [List.replicate_succ, List.cons_append, allowedTimes,
      checkRateLimit_allows limits _ _ h1, if_true, htokens]
    rw [ih (k - 1) (by omega) (by omega)]
    have hleft : k - 1 - n = k - (n + 1 : ℕ) := by push_cast; ring
    rw [hleft]

/-- A key nobody has written, or whose 60 s are over, serves a full burst in one
millisecond. -/
theorem allowedTimes_burst (limits : ClientRateLimit) {now : ℤ} {dropped : Bool} {bucket : Option BucketHash}
    (hgone : liveBucket ⟨now, dropped⟩ bucket = none) (rest : List Arrival) :
    allowedTimes limits bucket (List.replicate limits.burst ⟨now, dropped⟩ ++ rest) =
      List.replicate limits.burst now ++
        allowedTimes limits (if limits.burst = 0 then bucket else some ⟨0, now, now + bucketTtlMs⟩) rest := by
  cases hburst : limits.burst with
  | zero => simp
  | succ n =>
    have htokens : tokensAt limits ⟨now, dropped⟩ bucket = n + 1 := by
      simp [tokensAt, hgone, refilledTokens, hburst]
    have h1 : 1 ≤ tokensAt limits ⟨now, dropped⟩ bucket := by omega
    simp only [List.replicate_succ, List.cons_append, allowedTimes,
      checkRateLimit_allows limits _ _ h1, if_true, htokens]
    rw [allowedTimes_replicate now dropped rest n (n + 1 - 1) (by omega) (by omega)]
    simp

/-- Two bursts: `burst` calls at 0 ms and `burst` calls when the key has just expired. -/
def burstTwice (limits : ClientRateLimit) : List Arrival :=
  List.replicate limits.burst ⟨0, true⟩ ++ List.replicate limits.burst ⟨bucketTtlMs, true⟩

theorem burstTwice_ordered : Ordered (burstTwice limits) := by
  simp [Ordered, burstTwice, List.pairwise_append, List.pairwise_replicate, bucketTtlMs]

theorem allowedIn_burstTwice : allowedIn limits (burstTwice limits) 0 60000 = 2 * limits.burst := by
  have hfirst : liveBucket ⟨0, true⟩ none = none := rfl
  have hsecond : liveBucket ⟨bucketTtlMs, true⟩
      (if limits.burst = 0 then none else some ⟨0, 0, 0 + bucketTtlMs⟩) = none := by
    split
    · rfl
    · simp [liveBucket, Option.filter]
  have htimes : allowedTimes limits none (burstTwice limits) =
      List.replicate limits.burst 0 ++ List.replicate limits.burst bucketTtlMs := by
    have h2 := allowedTimes_burst limits hsecond []
    rw [List.append_nil] at h2
    rw [burstTwice, allowedTimes_burst limits hfirst, h2]
    simp [allowedTimes]
  have hall : ∀ t ∈ allowedTimes limits none (burstTwice limits),
      decide ((0 : ℚ) ≤ (t : ℚ) ∧ (t : ℚ) ≤ 0 + 60000) = true := by
    intro t ht
    rw [htimes, List.mem_append] at ht
    rcases ht with ht | ht
    · rw [List.eq_of_mem_replicate ht]; norm_num
    · rw [List.eq_of_mem_replicate ht, bucketTtlMs]; norm_num
  rw [allowedIn, List.filter_eq_self.mpr hall, htimes]
  simp [two_mul]

end Sequences

/-! ## The window bound -/

/-- In every window, at most `burst + rps · D / 1000` requests are let through, whatever
the arrivals. -/
def WindowBound (limits : ClientRateLimit) : Prop :=
  ∀ (arrivals : List Arrival) (w D : ℚ), Ordered arrivals → 0 ≤ D →
    (allowedIn limits arrivals w D : ℚ) ≤ limits.burst + limits.rps * D / 1000

theorem allowed_window_bound_iff (limits : ClientRateLimit) :
    WindowBound limits ↔ limits.burst ≤ 60 * limits.rps := by
  constructor
  · intro h
    have h2 := h (burstTwice limits) 0 60000 burstTwice_ordered (by norm_num)
    rw [allowedIn_burstTwice] at h2
    have : (limits.burst : ℚ) ≤ 60 * limits.rps := by push_cast at h2; linarith
    exact_mod_cast this
  · intro hfit arrivals w D hord hD
    have hcount := (admissions_metered hfit hord).count_window (w := w) (D := D)
      (div_nonneg (Nat.cast_nonneg _) (by norm_num)) (Nat.cast_nonneg _) hD
    rw [allowedIn_eq]
    calc _ ≤ (limits.burst : ℚ) + limits.rps / 1000 * D := hcount
      _ = limits.burst + limits.rps * D / 1000 := by ring

/-- With `rps = 1` and `burst = 61`, 61 requests at 0 ms and 61 more a minute later are all
let through: 122 in a window of 60 s, where 61 + 60 are promised. -/
theorem window_bound_fails_at_burst_61 :
    ClientRateLimit.accepted ⟨1, 61, 1⟩ = true ∧ ¬ WindowBound ⟨1, 61, 1⟩ := by
  refine ⟨by decide, fun h => ?_⟩
  have h2 := h (burstTwice ⟨1, 61, 1⟩) 0 60000 burstTwice_ordered (by norm_num)
  rw [allowedIn_burstTwice] at h2
  norm_num at h2

end AiGateway
