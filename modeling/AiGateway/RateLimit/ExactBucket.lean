import AiGateway.RateLimit.TokenBucket
import AiGateway.Lib.Double

/- The token bucket beside an exact one. An allowed request floors the refill since the last one
   and starts the clock anew, so the fraction of a token in between is lost; a denied one leaves
   the clock alone. The exact bucket holds a rational number of tokens, refills without
   rounding and pays for the same requests.

   The loss is the matter here, so the refill is taken as Lua computes it: `elapsed / window`
   and its product with `rate` are each rounded to a double before `math.floor`
   (`refillAmount`). Instants and tokens are whole numbers that doubles hold exactly. The
   comparison is for any refill function; the exact floor of `tokenBucketScript` is another
   (`bucketCall_floor`). `denialsDue_of_ordered`: a sequence of calls that loses no fraction has
   no denial that the exact bucket would not make. -/
namespace AiGateway

/-- `math.floor((elapsed / window) * rate)`. -/
def refillAmount (rate : ℕ) (elapsed : ℤ) : ℤ :=
  ⌊Double.toDouble (Double.toDouble ((elapsed : ℚ) / windowMs) * rate)⌋

/-! ## The two buckets side by side -/

section Buckets
variable (refill : ℤ → ℤ) (limits : ClientRateLimit)

/-- The tokens at hand when the script decides, with this refill. -/
def refilledBy (now : ℤ) : Option BucketHash → ℤ
  | none => limits.burst
  | some bucket => min limits.burst (bucket.tokens + refill (now - bucket.lastRefill))

/-- One call: whether it is let through, and the key it leaves. -/
def bucketCall (a : Arrival) (bucket : Option BucketHash) : Bool × Option BucketHash :=
  let live := liveBucket a bucket
  let tokens := refilledBy refill limits a.now live
  if 1 ≤ tokens then (true, some ⟨tokens - 1, a.now, a.now + bucketTtlMs⟩) else (false, live)

/-- The exact bucket, as the last request has left it. -/
structure ExactBucket where
  level : ℚ
  since : ℤ

/-- What it holds at an instant; before the first request it is full. -/
def levelAt (now : ℤ) : Option ExactBucket → ℚ
  | none => limits.burst
  | some exact => min limits.burst (exact.level + (now - exact.since) * limits.rps / 1000)

/-- It pays for the requests that are let through. -/
def charged (allowed : Bool) (now : ℤ) (level : ℚ) : ExactBucket := ⟨if allowed then level - 1 else level, now⟩

/-- Every denial of the sequence finds less than one token in the exact bucket too. -/
def DenialsDue : Option BucketHash → Option ExactBucket → List Arrival → Prop
  | _, _, [] => True
  | bucket, exact, a :: rest =>
    let call := bucketCall refill limits a bucket
    let level := levelAt limits a.now exact
    (call.1 = false → level < 1) ∧ DenialsDue call.2 (some (charged call.1 a.now level)) rest

/-- The bucket never under-serves: so it is for every sequence of arrivals. -/
def NeverUnderServes : Prop := ∀ arrivals, Ordered arrivals → DenialsDue refill limits none none arrivals

/-- Nothing is lost over this time: the refill is whole, or the bucket is full again anyway; with
`burst = 1` a fraction of the one token is not lost before the token is there. -/
def KeepsFraction (elapsed : ℤ) : Prop :=
  elapsed * limits.rps ≤ 1000 * refill elapsed ∨ limits.burst ≤ refill elapsed ∨
    (limits.burst = 1 ∧ elapsed * limits.rps < 1000)

/-- No call of the sequence loses a fraction. -/
def StepsKeep : Option BucketHash → List Arrival → Prop
  | _, [] => True
  | bucket, a :: rest =>
    (∀ b ∈ liveBucket a bucket, KeepsFraction refill limits (a.now - b.lastRefill)) ∧
      StepsKeep (bucketCall refill limits a bucket).2 rest

end Buckets

/-- With the exact floor the call is the one of `checkRateLimit`. -/
theorem bucketCall_floor (limits : ClientRateLimit) (a : Arrival) (bucket : Option BucketHash) :
    bucketCall (fun elapsed => elapsed * limits.rps / windowMs) limits a bucket =
      ((checkRateLimit limits .available a bucket).1.allowed, (checkRateLimit limits .available a bucket).2) := by
  have htokens : refilledBy (fun elapsed => elapsed * limits.rps / windowMs) limits a.now (liveBucket a bucket) =
      tokensAt limits a bucket := by
    unfold tokensAt refilledBy refilledTokens
    cases liveBucket a bucket with
    | none => rfl
    | some b => rfl
  unfold bucketCall
  simp only [htokens]
  by_cases h : 1 ≤ tokensAt limits a bucket
  · rw [if_pos h, checkRateLimit_allows limits a bucket h]
  · rw [if_neg h, checkRateLimit_denies limits a bucket h]

section Calls
variable {refill : ℤ → ℤ} {limits : ClientRateLimit} {a : Arrival} {bucket : Option BucketHash}

theorem bucketCall_allows (h : 1 ≤ refilledBy refill limits a.now (liveBucket a bucket)) :
    bucketCall refill limits a bucket =
      (true, some ⟨refilledBy refill limits a.now (liveBucket a bucket) - 1, a.now, a.now + bucketTtlMs⟩) := if_pos h

theorem bucketCall_denies (h : ¬ 1 ≤ refilledBy refill limits a.now (liveBucket a bucket)) :
    bucketCall refill limits a bucket = (false, liveBucket a bucket) := if_neg h

theorem levelAt_le_burst (now : ℤ) (exact : Option ExactBucket) : levelAt limits now exact ≤ limits.burst := by
  cases exact with
  | none => exact le_refl _
  | some e => exact min_le_left _ _

end Calls

/-! ## Sequences that lose nothing -/

section Kept
variable {refill : ℤ → ℤ} {limits : ClientRateLimit} {a : Arrival} {b : BucketHash} {bucket : Option BucketHash}
  {exact : Option ExactBucket} {clock : ℤ}

/-- From the instant `clock` on, the exact bucket holds at most what the key says and the rate
has added since it was written. -/
structure Covered (limits : ClientRateLimit) (b : BucketHash) (exact : Option ExactBucket) (clock : ℤ) : Prop where
  tokens_nonneg : 0 ≤ b.tokens
  tokens_lt : b.tokens < limits.burst
  written : b.lastRefill ≤ clock
  level_le : ∀ now, clock ≤ now → levelAt limits now exact ≤ b.tokens + ((now : ℚ) - b.lastRefill) * limits.rps / 1000

/-- A level below a number of tokens that is not enough for a request is less than one. -/
theorem lt_one_of_le {level : ℚ} {tokens : ℤ} (hle : level ≤ tokens) (h : ¬ 1 ≤ tokens) : level < 1 := by
  have htokens : (tokens : ℚ) < 1 := by exact_mod_cast not_le.mp h
  linarith

/-- Where no fraction is lost, a call that is let through finds at least the exact level in
the bucket, and a denied one finds less than a token in both. -/
theorem level_of_keeps (hcovered : Covered limits b exact clock) (hclock : clock ≤ a.now)
    (hkeeps : KeepsFraction refill limits (a.now - b.lastRefill)) (hlive : liveBucket a bucket = some b) :
    (1 ≤ refilledBy refill limits a.now (liveBucket a bucket) →
      levelAt limits a.now exact ≤ refilledBy refill limits a.now (liveBucket a bucket)) ∧
    (¬ 1 ≤ refilledBy refill limits a.now (liveBucket a bucket) → levelAt limits a.now exact < 1) := by
  have hburst : levelAt limits a.now exact ≤ (limits.burst : ℤ) := by exact_mod_cast levelAt_le_burst a.now exact
  have hlevel := hcovered.level_le a.now hclock
  rw [hlive]
  simp only [refilledBy]
  obtain hexact | hfull | ⟨hone, hpart⟩ := hkeeps
  · -- a whole refill: the script's sum is the exact one
    have hexactQ : ((a.now : ℚ) - b.lastRefill) * limits.rps ≤ 1000 * refill (a.now - b.lastRefill) := by
      exact_mod_cast hexact
    have hsum : levelAt limits a.now exact ≤ (b.tokens + refill (a.now - b.lastRefill) : ℤ) := by
      push_cast
      linarith
    have hmin : levelAt limits a.now exact ≤
        (min (limits.burst : ℤ) (b.tokens + refill (a.now - b.lastRefill)) : ℤ) := by
      rw [Int.cast_min]
      exact le_min hburst hsum
    exact ⟨fun _ => hmin, fun h => lt_one_of_le hmin h⟩
  · -- the bucket is full again
    have hmin : min (limits.burst : ℤ) (b.tokens + refill (a.now - b.lastRefill)) = limits.burst := by
      have := hcovered.tokens_nonneg
      omega
    rw [hmin]
    exact ⟨fun _ => hburst, fun h => lt_one_of_le hburst h⟩
  · -- one token at most: what is let through empties the bucket
    have htokens : b.tokens = 0 := by
      have h0 := hcovered.tokens_nonneg
      have h1 := hcovered.tokens_lt
      omega
    refine ⟨?_, ?_⟩
    · intro h
      have hmin : min (limits.burst : ℤ) (b.tokens + refill (a.now - b.lastRefill)) = limits.burst := by omega
      rw [hmin]
      exact hburst
    · intro _
      have hpartQ : ((a.now : ℚ) - b.lastRefill) * limits.rps < 1000 := by exact_mod_cast hpart
      have htokensQ : (b.tokens : ℚ) = 0 := by exact_mod_cast htokens
      linarith

/-- The exact bucket between two requests: it gains at most the rate. -/
theorem levelAt_charged_le (allowed : Bool) (level : ℚ) (at_ now : ℤ) :
    levelAt limits now (some (charged allowed at_ level)) ≤
      (if allowed then level - 1 else level) + ((now : ℚ) - at_) * limits.rps / 1000 := min_le_right _ _

/-- A request that is let through leaves the exact bucket covered by the key it writes. -/
theorem covered_of_allowed {tokens : ℤ} (hone : 1 ≤ tokens) (hburst : tokens ≤ limits.burst)
    (hlevel : levelAt limits a.now exact ≤ tokens) :
    Covered limits ⟨tokens - 1, a.now, a.now + bucketTtlMs⟩ (some (charged true a.now (levelAt limits a.now exact)))
      a.now where
  tokens_nonneg := by simp only; omega
  tokens_lt := by simp only; omega
  written := le_refl _
  level_le := by
    intro now _
    have h := @levelAt_charged_le limits true (levelAt limits a.now exact) a.now now
    simp only [if_true] at h
    push_cast
    linarith

/-- A denied one leaves it covered by the key as it was. -/
theorem covered_of_denied (hcovered : Covered limits b exact clock) (hclock : clock ≤ a.now) :
    Covered limits b (some (charged false a.now (levelAt limits a.now exact))) a.now where
  tokens_nonneg := hcovered.tokens_nonneg
  tokens_lt := hcovered.tokens_lt
  written := hcovered.written.trans hclock
  level_le := by
    intro now _
    have h := @levelAt_charged_le limits false (levelAt limits a.now exact) a.now now
    simp only [Bool.false_eq_true, if_false] at h
    have hlevel := hcovered.level_le a.now hclock
    have hsplit : ((now : ℚ) - b.lastRefill) * limits.rps / 1000 =
        ((a.now : ℚ) - b.lastRefill) * limits.rps / 1000 + ((now : ℚ) - a.now) * limits.rps / 1000 := by ring
    linarith

theorem refilledBy_le_burst (now : ℤ) (bucket : Option BucketHash) : refilledBy refill limits now bucket ≤ limits.burst := by
  cases bucket with
  | none => exact le_refl _
  | some b => exact min_le_left _ _

/-- What one call keeps: if it loses nothing it denies only what is due, and the key it leaves
covers the exact bucket. -/
theorem call_keeps (hcovered : ∀ b ∈ bucket, Covered limits b exact clock) (hclock : clock ≤ a.now)
    (hkeeps : ∀ b ∈ liveBucket a bucket, KeepsFraction refill limits (a.now - b.lastRefill)) :
    ((bucketCall refill limits a bucket).1 = false → levelAt limits a.now exact < 1) ∧
    ∀ b ∈ (bucketCall refill limits a bucket).2, Covered limits b
      (some (charged (bucketCall refill limits a bucket).1 a.now (levelAt limits a.now exact))) a.now := by
  have hlevels : (1 ≤ refilledBy refill limits a.now (liveBucket a bucket) →
        levelAt limits a.now exact ≤ refilledBy refill limits a.now (liveBucket a bucket)) ∧
      (¬ 1 ≤ refilledBy refill limits a.now (liveBucket a bucket) → levelAt limits a.now exact < 1) := by
    cases hlive : liveBucket a bucket with
    | some b =>
      have hmem : b ∈ bucket := (Option.mem_filter_iff.mp hlive).1
      rw [← hlive]
      exact level_of_keeps (hcovered b hmem) hclock (hkeeps b hlive) hlive
    | none =>
      -- a key that is gone is a full bucket
      have hburst := @levelAt_le_burst limits a.now exact
      have hfull : levelAt limits a.now exact ≤ (limits.burst : ℤ) := by exact_mod_cast hburst
      exact ⟨fun _ => hfull, lt_one_of_le hfull⟩
  by_cases h : 1 ≤ refilledBy refill limits a.now (liveBucket a bucket)
  · rw [bucketCall_allows h]
    refine ⟨fun hfalse => Bool.noConfusion hfalse, ?_⟩
    intro b' hb'
    rw [Option.mem_some] at hb'
    subst hb'
    exact covered_of_allowed h (refilledBy_le_burst _ _) (hlevels.1 h)
  · rw [bucketCall_denies h]
    refine ⟨fun _ => hlevels.2 h, ?_⟩
    intro b' hb'
    have hmem : b' ∈ bucket := (Option.mem_filter_iff.mp hb').1
    exact covered_of_denied (hcovered b' hmem) hclock

/-- Every denial of a sequence that loses nothing is due. -/
theorem denialsDue_of_stepsKeep {arrivals : List Arrival} (hcovered : ∀ b ∈ bucket, Covered limits b exact clock)
    (hclock : ∀ a ∈ arrivals, clock ≤ a.now) (hord : Ordered arrivals) (hkeep : StepsKeep refill limits bucket arrivals) :
    DenialsDue refill limits bucket exact arrivals := by
  induction arrivals generalizing bucket exact clock with
  | nil => trivial
  | cons a rest ih =>
    obtain ⟨hcall, hrest⟩ := hkeep
    obtain ⟨hfirst, hord'⟩ := List.pairwise_cons.mp hord
    obtain ⟨hdue, hcovers⟩ := call_keeps hcovered (hclock a List.mem_cons_self) hcall
    refine ⟨hdue, ih hcovers ?_ hord' hrest⟩
    intro x hx
    exact hfirst x.now (List.mem_map_of_mem hx)

/-- The instant of the first request is before all the others. -/
theorem exists_clock {arrivals : List Arrival} (hord : Ordered arrivals) : ∃ clock : ℤ, ∀ a ∈ arrivals, clock ≤ a.now := by
  cases arrivals with
  | nil => exact ⟨0, fun a ha => nomatch ha⟩
  | cons first rest =>
    refine ⟨first.now, ?_⟩
    intro x hx
    obtain rfl | hx := List.mem_cons.mp hx
    · exact le_refl _
    · exact (List.pairwise_cons.mp hord).1 x.now (List.mem_map_of_mem hx)

/-- The key as a call leaves it: written at an instant before, and gone 60 s later. -/
structure Written (b : BucketHash) (clock : ℤ) : Prop where
  before : b.lastRefill ≤ clock
  expires : b.expiresAt = b.lastRefill + bucketTtlMs

theorem written_of_call (hwritten : ∀ b ∈ bucket, Written b clock) (hclock : clock ≤ a.now) :
    ∀ b ∈ (bucketCall refill limits a bucket).2, Written b a.now := by
  intro b' hb'
  by_cases h : 1 ≤ refilledBy refill limits a.now (liveBucket a bucket)
  · rw [bucketCall_allows h, Option.mem_some] at hb'
    subst hb'
    exact ⟨le_refl _, rfl⟩
  · rw [bucketCall_denies h] at hb'
    have hb := hwritten b' (Option.mem_filter_iff.mp hb').1
    exact ⟨hb.before.trans hclock, hb.expires⟩

/-- A key that is still there was written at most 60 s ago. -/
theorem elapsed_le_ttl (hwritten : Written b clock) (hlive : b ∈ liveBucket a (some b)) :
    a.now - b.lastRefill ≤ bucketTtlMs := by
  obtain ⟨_, hkept⟩ := Option.mem_filter_iff.mp hlive
  have hexpires := hwritten.expires
  simp only [Bool.or_eq_true, decide_eq_true_eq, Bool.and_eq_true, beq_iff_eq] at hkept
  omega

/-- Limits under which no time within those 60 s loses a fraction: no sequence does. -/
theorem stepsKeep_of_keeps (hzero : refill 0 = 0)
    (hkeeps : ∀ elapsed, 0 < elapsed → elapsed ≤ bucketTtlMs → KeepsFraction refill limits elapsed)
    {arrivals : List Arrival} (hwritten : ∀ b ∈ bucket, Written b clock) (hclock : ∀ a ∈ arrivals, clock ≤ a.now)
    (hord : Ordered arrivals) : StepsKeep refill limits bucket arrivals := by
  induction arrivals generalizing bucket clock with
  | nil => trivial
  | cons a rest ih =>
    obtain ⟨hfirst, hord'⟩ := List.pairwise_cons.mp hord
    have hnow := hclock a List.mem_cons_self
    refine ⟨?_, ih (written_of_call hwritten hnow) ?_ hord'⟩
    · intro b hb
      have hmem := (Option.mem_filter_iff.mp hb).1
      have hbefore := (hwritten b hmem).before
      rw [Option.mem_def.mp hmem] at hb
      have hle := elapsed_le_ttl (hwritten b hmem) hb
      obtain hpos | hnone := (show 0 ≤ a.now - b.lastRefill by omega).lt_or_eq
      · exact hkeeps _ hpos hle
      · exact .inl (by rw [← hnone, hzero]; simp)
    · intro x hx
      exact hfirst x.now (List.mem_map_of_mem hx)

/-- From the first request on. -/
theorem denialsDue_of_ordered {arrivals : List Arrival} (hord : Ordered arrivals)
    (hkeep : StepsKeep refill limits none arrivals) : DenialsDue refill limits none none arrivals := by
  obtain ⟨clock, hclock⟩ := exists_clock hord
  exact denialsDue_of_stepsKeep (fun b hb => nomatch hb) hclock hord hkeep

theorem neverUnderServes_of_keeps (hzero : refill 0 = 0)
    (hkeeps : ∀ elapsed, 0 < elapsed → elapsed ≤ bucketTtlMs → KeepsFraction refill limits elapsed) :
    NeverUnderServes refill limits := by
  intro arrivals hord
  obtain ⟨clock, hclock⟩ := exists_clock hord
  exact denialsDue_of_ordered hord (stepsKeep_of_keeps hzero hkeeps (fun b hb => nomatch hb) hclock hord)

end Kept

end AiGateway
