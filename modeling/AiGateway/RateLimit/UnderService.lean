import AiGateway.RateLimit.ExactBucket
import Mathlib.Algebra.Order.Archimedean.Basic

/- When the token bucket denies a request that an exact one would let through: whenever some
   time within the 60 s of the key loses a fraction (`underServes_of_lost`). The sequences
   that show it spend the burst first. Then, where the refill over that time has whole tokens,
   they wait it again and again until the fractions make a token; where it has none, one or two
   calls are enough. The argument is about any refill function that grants no token early
   (`WholeRefill`), as the script's does, roundings and all (`refillAmount_whole`). -/
namespace AiGateway

/-! ## Sequences that lose a fraction -/

/-- A refill that grants no token early, and has one within the 60 s. -/
structure WholeRefill (limits : ClientRateLimit) (refill : ℤ → ℤ) : Prop where
  zero : refill 0 = 0
  nonneg : ∀ elapsed, 0 ≤ elapsed → 0 ≤ refill elapsed
  early : ∀ elapsed, 0 ≤ elapsed → 1 ≤ refill elapsed → 1000 ≤ elapsed * limits.rps
  minute : 1 ≤ limits.rps → 1 ≤ refill bucketTtlMs

section Lost
variable {refill : ℤ → ℤ} {limits : ClientRateLimit} {t elapsed : ℤ} {v : ℚ} {rest : List Arrival}

/-- A key written at `t`, still there. -/
def keyAt (tokens t : ℤ) : BucketHash := ⟨tokens, t, t + bucketTtlMs⟩

/-- What the two buckets hold some time after they held so much. -/
def tokensAfter (refill : ℤ → ℤ) (limits : ClientRateLimit) (tokens elapsed : ℤ) : ℤ :=
  min (limits.burst : ℤ) (tokens + refill elapsed)

def levelAfter (limits : ClientRateLimit) (level : ℚ) (elapsed : ℤ) : ℚ :=
  min (limits.burst : ℚ) (level + elapsed * limits.rps / 1000)

theorem liveBucket_keyAt {tokens : ℤ} (hle : elapsed ≤ bucketTtlMs) :
    liveBucket ⟨t + elapsed, false⟩ (some (keyAt tokens t)) = some (keyAt tokens t) := by
  unfold liveBucket
  rw [Option.filter_some, if_pos]
  obtain hlt | heq := hle.lt_or_eq
  · simp [keyAt, hlt]
  · simp [keyAt, heq]

/-- The call on such a key. -/
theorem bucketCall_keyAt {tokens : ℤ} (hle : elapsed ≤ bucketTtlMs) :
    bucketCall refill limits ⟨t + elapsed, false⟩ (some (keyAt tokens t)) =
      if 1 ≤ tokensAfter refill limits tokens elapsed then
        (true, some (keyAt (tokensAfter refill limits tokens elapsed - 1) (t + elapsed)))
      else (false, some (keyAt tokens t)) := by
  have htime : t + elapsed - t = elapsed := by omega
  unfold bucketCall
  rw [liveBucket_keyAt hle]
  have htokens : refilledBy refill limits (t + elapsed) (some (keyAt tokens t)) = tokensAfter refill limits tokens elapsed := by
    simp only [refilledBy, keyAt, tokensAfter, htime]
  simp only [htokens]
  rfl

theorem levelAt_some (level : ℚ) (t elapsed : ℤ) :
    levelAt limits (t + elapsed) (some ⟨level, t⟩) = levelAfter limits level elapsed := by
  unfold levelAt levelAfter
  have htime : ((t + elapsed : ℤ) : ℚ) - t = elapsed := by
    push_cast
    ring
  simp only [htime]

/-- A denial that is not due. -/
theorem not_denialsDue_of_denied {tokens : ℤ} (hle : elapsed ≤ bucketTtlMs)
    (hdenied : ¬ 1 ≤ tokensAfter refill limits tokens elapsed) (hlevel : 1 ≤ levelAfter limits v elapsed) :
    ¬ DenialsDue refill limits (some (keyAt tokens t)) (some ⟨v, t⟩) (⟨t + elapsed, false⟩ :: rest) := by
  intro ⟨hdue, _⟩
  rw [bucketCall_keyAt hle, if_neg hdenied] at hdue
  have hlt := hdue rfl
  rw [levelAt_some] at hlt
  linarith

/-- A call that is let through goes on from the key it writes. -/
theorem denialsDue_allowed {tokens : ℤ} (hle : elapsed ≤ bucketTtlMs)
    (hallowed : 1 ≤ tokensAfter refill limits tokens elapsed)
    (h : DenialsDue refill limits (some (keyAt tokens t)) (some ⟨v, t⟩) (⟨t + elapsed, false⟩ :: rest)) :
    DenialsDue refill limits (some (keyAt (tokensAfter refill limits tokens elapsed - 1) (t + elapsed)))
      (some ⟨levelAfter limits v elapsed - 1, t + elapsed⟩) rest := by
  obtain ⟨_, hrest⟩ := h
  rw [bucketCall_keyAt hle, if_pos hallowed, levelAt_some] at hrest
  exact hrest

/-- Calls in the millisecond the key was written in take a token each from both. -/
theorem denialsDue_replicate (hzero : refill 0 = 0) (n : ℕ) {tokens : ℤ} (hn : n ≤ tokens) (hburst : tokens ≤ limits.burst)
    (hv : v ≤ limits.burst)
    (h : DenialsDue refill limits (some (keyAt tokens t)) (some ⟨v, t⟩) (List.replicate n ⟨t, false⟩ ++ rest)) :
    DenialsDue refill limits (some (keyAt (tokens - n) t)) (some ⟨v - n, t⟩) rest := by
  induction n generalizing tokens v with
  | zero => simpa using h
  | succ n ih =>
    push_cast at hn
    have htime : t + 0 = t := by omega
    have htokens : tokensAfter refill limits tokens 0 = tokens := by
      unfold tokensAfter
      rw [hzero]
      omega
    have hlevel : levelAfter limits v 0 = v := by
      unfold levelAfter
      rw [min_eq_right]
      · simp
      · simpa using hv
    have hallowed : 1 ≤ tokensAfter refill limits tokens 0 := by
      rw [htokens]
      omega
    -- No time passes between the arrivals, so that nothing is refilled.
    have hfirst : DenialsDue refill limits (some (keyAt tokens t)) (some ⟨v, t⟩)
        (⟨t + 0, false⟩ :: (List.replicate n ⟨t, false⟩ ++ rest)) := by
      rw [htime]
      exact h
    have hstep := denialsDue_allowed (by decide) hallowed hfirst
    rw [htokens, hlevel, htime] at hstep
    have hrest := ih (by omega) (by omega) (by linarith) hstep
    have hkey : tokens - 1 - n = tokens - (n + 1 : ℕ) := by push_cast; ring
    have hleft : v - 1 - n = v - (n + 1 : ℕ) := by push_cast; ring
    rw [hkey, hleft] at hrest
    exact hrest

/-- The first calls of a client: `n + 1` of them at 0 ms. -/
theorem denialsDue_first (hzero : refill 0 = 0) (n : ℕ) (hn : n + 1 ≤ limits.burst)
    (h : DenialsDue refill limits none none (List.replicate (n + 1) ⟨0, false⟩ ++ rest)) :
    DenialsDue refill limits (some (keyAt (limits.burst - (n + 1 : ℕ)) 0)) (some ⟨limits.burst - (n + 1 : ℕ), 0⟩) rest := by
  obtain ⟨_, hrest⟩ := h
  have hcast : (n : ℤ) + 1 ≤ limits.burst := by exact_mod_cast hn
  have hone : 1 ≤ refilledBy refill limits 0 (liveBucket ⟨0, false⟩ none) := by
    show (1 : ℤ) ≤ limits.burst
    omega
  rw [bucketCall_allows hone] at hrest
  have hwritten : DenialsDue refill limits (some (keyAt (limits.burst - 1) 0)) (some ⟨limits.burst - 1, 0⟩)
      (List.replicate n ⟨0, false⟩ ++ rest) := hrest
  have hcalls := denialsDue_replicate hzero n (by omega) (by omega) (by linarith) hwritten
  have hkey : (limits.burst : ℤ) - 1 - n = limits.burst - (n + 1 : ℕ) := by push_cast; ring
  have hleft : (limits.burst : ℚ) - 1 - n = limits.burst - (n + 1 : ℕ) := by push_cast; ring
  rw [hkey, hleft] at hcalls
  exact hcalls

/-- `q` calls every `elapsed` ms, `m` times over, and one more with the last of them. -/
def rounds (elapsed : ℤ) (q : ℕ) (t : ℤ) : ℕ → List Arrival
  | 0 => [⟨t, false⟩]
  | m + 1 => List.replicate q ⟨t + elapsed, false⟩ ++ rounds elapsed q (t + elapsed) m

/-- After a round either the exact bucket is capped, with a token left over, or the fraction is in it. -/
theorem gained_in_round {q : ℕ} (hburst : q + 1 < limits.burst)
    (hlost : 0 ≤ (elapsed : ℚ) * limits.rps / 1000 - (q + 1)) (m : ℕ)
    (henough : 1 ≤ v + (m + 1 : ℕ) * ((elapsed : ℚ) * limits.rps / 1000 - (q + 1))) :
    1 ≤ levelAfter limits v elapsed - 1 - q + m * ((elapsed : ℚ) * limits.rps / 1000 - (q + 1)) := by
  have hgain : 0 ≤ (m : ℚ) * ((elapsed : ℚ) * limits.rps / 1000 - (q + 1)) := mul_nonneg (Nat.cast_nonneg m) hlost
  have hroom : (q : ℚ) + 1 + 1 ≤ limits.burst := by exact_mod_cast hburst
  push_cast at henough
  unfold levelAfter
  obtain hcap | hsum := min_choice (limits.burst : ℚ) (v + elapsed * limits.rps / 1000)
  · rw [hcap]
    linarith
  · rw [hsum]
    linarith

/-- Each round pays for `q` tokens, and the exact bucket gains the fraction on top; after enough
rounds it holds a token that the script never sees. -/
theorem not_denialsDue_rounds (hzero : refill 0 = 0) (hle : elapsed ≤ bucketTtlMs) {q : ℕ}
    (hq : refill elapsed = q + 1) (hburst : q + 1 < limits.burst)
    (hlost : 0 ≤ (elapsed : ℚ) * limits.rps / 1000 - (q + 1)) (m : ℕ) (hv : v ≤ limits.burst)
    (henough : 1 ≤ v + m * ((elapsed : ℚ) * limits.rps / 1000 - (q + 1))) :
    ¬ DenialsDue refill limits (some (keyAt 0 t)) (some ⟨v, t⟩) (rounds elapsed (q + 1) t m) := by
  induction m generalizing t v with
  | zero =>
    have hempty : ¬ 1 ≤ tokensAfter refill limits 0 0 := by
      unfold tokensAfter
      rw [hzero]
      omega
    have hlevel : 1 ≤ levelAfter limits v 0 := by
      have hroom : (1 : ℚ) ≤ limits.burst := by exact_mod_cast (show 1 ≤ limits.burst by omega)
      refine le_min hroom ?_
      simpa using henough
    have hdenied : ¬ DenialsDue refill limits (some (keyAt 0 t)) (some ⟨v, t⟩) [⟨t + 0, false⟩] :=
      not_denialsDue_of_denied (by decide) hempty hlevel
    rw [show t + 0 = t by omega] at hdenied
    exact hdenied
  | succ m ih =>
    intro h
    have htokens : tokensAfter refill limits 0 elapsed = q + 1 := by
      unfold tokensAfter
      rw [hq]
      omega
    have hfirst := denialsDue_allowed hle (by rw [htokens]; omega) h
    rw [htokens] at hfirst
    have hcapped : levelAfter limits v elapsed ≤ limits.burst := min_le_left _ _
    -- Each round spends `q` tokens on both sides, and the level keeps a little more than the key.
    have hround := denialsDue_replicate hzero q (by omega) (by omega) (by linarith) hfirst
    rw [show (q : ℤ) + 1 - 1 - q = 0 by omega] at hround
    have hq0 : (0 : ℚ) ≤ q := Nat.cast_nonneg q
    exact ih (by linarith) (gained_in_round hburst hlost m henough) hround

/-- A refill that grows from nothing to a token does so from one millisecond to the next. -/
theorem exists_last_empty (k : ℕ) (hempty : refill elapsed < 1) (htoken : 1 ≤ refill (elapsed + k)) :
    ∃ d, elapsed ≤ d ∧ d < elapsed + k ∧ refill d < 1 ∧ 1 ≤ refill (d + 1) := by
  induction k with
  | zero =>
    rw [show elapsed + (0 : ℕ) = elapsed by simp] at htoken
    omega
  | succ k ih =>
    by_cases hk : 1 ≤ refill (elapsed + k)
    · obtain ⟨d, hd, hlt, hlast⟩ := ih hk
      exact ⟨d, hd, by push_cast; omega, hlast⟩
    · refine ⟨elapsed + k, by omega, by push_cast; omega, by omega, ?_⟩
      rw [show elapsed + (k : ℤ) + 1 = elapsed + (k + 1 : ℕ) by push_cast; ring]
      exact htoken

/-! ### The sequences are ordered -/

theorem ordered_cons {a : Arrival} (hfirst : ∀ x ∈ rest, a.now ≤ x.now) (hrest : Ordered rest) : Ordered (a :: rest) := by
  refine List.pairwise_cons.mpr ⟨?_, hrest⟩
  intro now hnow
  obtain ⟨x, hx, rfl⟩ := List.mem_map.mp hnow
  exact hfirst x hx

theorem ordered_singleton (a : Arrival) : Ordered [a] := List.pairwise_singleton _ _

theorem from_replicate {n : ℕ} (hfirst : ∀ x ∈ rest, t ≤ x.now) : ∀ x ∈ List.replicate n ⟨t, false⟩ ++ rest, t ≤ x.now := by
  intro x hx
  obtain hx | hx := List.mem_append.mp hx
  · rw [List.eq_of_mem_replicate hx]
  · exact hfirst x hx

theorem ordered_replicate (n : ℕ) (hfirst : ∀ x ∈ rest, t ≤ x.now) (hrest : Ordered rest) :
    Ordered (List.replicate n ⟨t, false⟩ ++ rest) := by
  induction n with
  | zero => exact hrest
  | succ n ih => exact ordered_cons (from_replicate hfirst) ih

theorem ordered_rounds (helapsed : 0 ≤ elapsed) (q : ℕ) (m : ℕ) :
    Ordered (rounds elapsed q t m) ∧ ∀ x ∈ rounds elapsed q t m, t ≤ x.now := by
  induction m generalizing t with
  | zero =>
    refine ⟨ordered_singleton _, ?_⟩
    intro x hx
    rw [List.mem_singleton.mp hx]
  | succ m ih =>
    obtain ⟨hord, hfrom⟩ := ih (t := t + elapsed)
    refine ⟨ordered_replicate q hfrom hord, ?_⟩
    intro x hx
    have := from_replicate hfrom x hx
    omega

/-! ### A lossy time yields an undue denial -/

/-- The burst is spent at 0 ms; what follows is up to the sequence. -/
theorem underServes_of_drained (hzero : refill 0 = 0) (hburst : 0 < limits.burst) (hord : Ordered rest)
    (hfrom : ∀ x ∈ rest, 0 ≤ x.now) (h : ¬ DenialsDue refill limits (some (keyAt 0 0)) (some ⟨0, 0⟩) rest) :
    ¬ NeverUnderServes refill limits := by
  obtain ⟨n, hn⟩ : ∃ n, limits.burst = n + 1 := ⟨limits.burst - 1, by omega⟩
  intro hnever
  have hdrained := denialsDue_first hzero n hn.ge (hnever _ (ordered_replicate (n + 1) hfrom hord))
  rw [← hn, sub_self, sub_self] at hdrained
  exact h hdrained

/-- The refill grants whole tokens and a fraction is lost: wait so long again and again. -/
theorem underServes_of_rounds (hzero : refill 0 = 0) (hpos : 0 < elapsed) (hle : elapsed ≤ bucketTtlMs) {q : ℕ}
    (hq : refill elapsed = q + 1) (hburst : q + 1 < limits.burst)
    (hlost : 1000 * refill elapsed < elapsed * limits.rps) : ¬ NeverUnderServes refill limits := by
  have hlostQ : (0 : ℚ) < (elapsed : ℚ) * limits.rps / 1000 - (q + 1) := by
    have hcast : (1000 * (q + 1) : ℚ) < elapsed * limits.rps := by
      rw [hq] at hlost
      exact_mod_cast hlost
    linarith
  obtain ⟨m, hm⟩ := exists_nat_ge (1 / ((elapsed : ℚ) * limits.rps / 1000 - (q + 1)))
  have henough : 1 ≤ 0 + (m : ℚ) * ((elapsed : ℚ) * limits.rps / 1000 - (q + 1)) := by
    rw [div_le_iff₀ hlostQ] at hm
    linarith
  obtain ⟨hord, hfrom⟩ := ordered_rounds (t := 0) hpos.le (q + 1) m
  apply underServes_of_drained hzero (by omega) hord hfrom
  exact not_denialsDue_rounds hzero hle hq hburst hlostQ.le m (Nat.cast_nonneg _) henough

/-- The refill grants nothing though a token has accrued: one call after this time. -/
theorem underServes_of_late (hzero : refill 0 = 0) (hpos : 0 < elapsed) (hle : elapsed ≤ bucketTtlMs)
    (hnone : refill elapsed = 0) (hburst : 0 < limits.burst) (htoken : 1000 ≤ elapsed * limits.rps) :
    ¬ NeverUnderServes refill limits := by
  have hempty : ¬ 1 ≤ tokensAfter refill limits 0 elapsed := by
    unfold tokensAfter
    rw [hnone]
    omega
  have hlevel : 1 ≤ levelAfter limits 0 elapsed := by
    have htokenQ : (1000 : ℚ) ≤ elapsed * limits.rps := by exact_mod_cast htoken
    refine le_min ?_ ?_
    · exact_mod_cast hburst
    · linarith
  have hfrom : ∀ x ∈ [(⟨0 + elapsed, false⟩ : Arrival)], 0 ≤ x.now := by
    intro x hx
    rw [List.mem_singleton.mp hx]
    show 0 ≤ 0 + elapsed
    omega
  apply underServes_of_drained hzero hburst (ordered_singleton _) hfrom
  exact not_denialsDue_of_denied hle hempty hlevel

/-- Less than a token has accrued and it is lost: the call at `elapsed` takes the last token, and
the one `d` ms later finds the two fractions of one token gone. -/
theorem not_denialsDue_of_fraction (hzero : refill 0 = 0) {d : ℤ} {n : ℕ} (hle : elapsed ≤ bucketTtlMs)
    (hdle : d ≤ bucketTtlMs) (hnone : refill elapsed = 0) (hstill : refill d < 1) (hn : limits.burst = n + 2)
    (hpart : elapsed * limits.rps < 1000) (htoken : 1000 ≤ (elapsed + d) * limits.rps) :
    ¬ DenialsDue refill limits none none
      (List.replicate (n + 1) ⟨0, false⟩ ++ [⟨0 + elapsed, false⟩, ⟨0 + elapsed + d, false⟩]) := by
  have hburstQ : (2 : ℚ) ≤ limits.burst := by
    rw [hn]
    push_cast
    have hn0 : (0 : ℚ) ≤ n := Nat.cast_nonneg n
    linarith
  have hpartQ : (elapsed : ℚ) * limits.rps < 1000 := by exact_mod_cast hpart
  have htokenQ : (1000 : ℚ) ≤ (elapsed + d) * limits.rps := by exact_mod_cast htoken
  -- The key is rounded down to a whole token, where the level keeps the fraction.
  have hone : tokensAfter refill limits 1 elapsed = 1 := by
    unfold tokensAfter
    rw [hnone]
    omega
  have hleft : levelAfter limits 1 elapsed = 1 + elapsed * limits.rps / 1000 := by
    unfold levelAfter
    apply min_eq_right
    linarith
  have hempty : ¬ 1 ≤ tokensAfter refill limits 0 d := by
    unfold tokensAfter
    omega
  have hlevel : 1 ≤ levelAfter limits (levelAfter limits 1 elapsed - 1) d := by
    rw [hleft]
    unfold levelAfter
    refine le_min ?_ ?_
    · linarith
    · linarith
  -- All but one token are drained at once; of the last two arrivals the second is denied.
  intro hdue
  have hdrained := denialsDue_first hzero n (by omega) hdue
  have hkey : (limits.burst : ℤ) - (n + 1 : ℕ) = 1 := by
    rw [hn]
    push_cast
    ring
  have hlevelOne : (limits.burst : ℚ) - (n + 1 : ℕ) = 1 := by
    rw [hn]
    push_cast
    ring
  rw [hkey, hlevelOne] at hdrained
  have hsecond := denialsDue_allowed hle hone.ge hdrained
  rw [hone, sub_self] at hsecond
  exact not_denialsDue_of_denied hdle hempty hlevel hsecond

theorem underServes_of_fraction (hzero : refill 0 = 0) {d : ℤ} (hpos : 0 < elapsed) (hd : 0 ≤ d)
    (hle : elapsed ≤ bucketTtlMs) (hdle : d ≤ bucketTtlMs) (hnone : refill elapsed = 0) (hstill : refill d < 1)
    (hburst : 2 ≤ limits.burst) (hpart : elapsed * limits.rps < 1000) (htoken : 1000 ≤ (elapsed + d) * limits.rps) :
    ¬ NeverUnderServes refill limits := by
  obtain ⟨n, hn⟩ : ∃ n, limits.burst = n + 2 := ⟨limits.burst - 2, by omega⟩
  have hord : Ordered [(⟨0 + elapsed, false⟩ : Arrival), ⟨0 + elapsed + d, false⟩] := by
    refine ordered_cons ?_ (ordered_singleton _)
    intro x hx
    rw [List.mem_singleton.mp hx]
    show 0 + elapsed ≤ 0 + elapsed + d
    omega
  have hfrom : ∀ x ∈ [(⟨0 + elapsed, false⟩ : Arrival), ⟨0 + elapsed + d, false⟩], 0 ≤ x.now := by
    intro x hx
    obtain rfl | hx := List.mem_cons.mp hx
    · show 0 ≤ 0 + elapsed
      omega
    · rw [List.mem_singleton.mp hx]
      show 0 ≤ 0 + elapsed + d
      omega
  intro hnever
  exact not_denialsDue_of_fraction hzero hle hdle hnone hstill hn hpart htoken
    (hnever _ (ordered_replicate (n + 1) hfrom hord))

/-- Every time that loses a fraction yields a sequence with an undue denial. -/
theorem underServes_of_lost (hwhole : WholeRefill limits refill) (hpos : 0 < elapsed) (hle : elapsed ≤ bucketTtlMs)
    (hlost : ¬ KeepsFraction refill limits elapsed) : ¬ NeverUnderServes refill limits := by
  unfold KeepsFraction at hlost
  push Not at hlost
  obtain ⟨hmore, hroom, hbig⟩ := hlost
  have hrefill := hwhole.nonneg elapsed hpos.le
  obtain hgrants | hnone := hrefill.lt_or_eq
  · obtain ⟨q, hq⟩ : ∃ q : ℕ, refill elapsed = q + 1 := ⟨(refill elapsed - 1).toNat, by omega⟩
    exact underServes_of_rounds hwhole.zero hpos hle hq (by omega) hmore
  · by_cases htoken : 1000 ≤ elapsed * limits.rps
    · exact underServes_of_late hwhole.zero hpos hle hnone.symm (by omega) htoken
    · have hrps : 1 ≤ limits.rps := by
        by_contra hrps
        rw [show limits.rps = 0 by omega] at hmore
        simp only [Nat.cast_zero, mul_zero] at hmore
        omega
      have hburst : 2 ≤ limits.burst := by
        by_contra hburst
        exact htoken (hbig (by omega))
      obtain ⟨k, hk⟩ : ∃ k : ℕ, bucketTtlMs = elapsed + k := ⟨(bucketTtlMs - elapsed).toNat, by omega⟩
      have hminute := hwhole.minute hrps
      rw [hk] at hminute
      obtain ⟨d, hd, hdlt, hstill, hnext⟩ := exists_last_empty k (by omega) hminute
      have hearly := hwhole.early (d + 1) (by omega) hnext
      have hsum : (d + 1) * limits.rps ≤ (elapsed + d) * limits.rps :=
        mul_le_mul_of_nonneg_right (by omega) (Nat.cast_nonneg _)
      exact underServes_of_fraction hwhole.zero hpos (by omega) hle (by omega) hnone.symm hstill hburst (by omega)
        (hearly.trans hsum)

end Lost

/-! ## The script's refill -/

/-- `refillAmount` before the floor: the two roundings add at most a part in `2 ^ 52` or so. -/
theorem refillAmount_bounds (rate : ℕ) {elapsed : ℤ} (h : 0 ≤ elapsed) :
    Double.toDouble (Double.toDouble ((elapsed : ℚ) / windowMs) * rate) ≤
        elapsed * rate / 1000 * ((1 + Double.unitRoundoff) * (1 + Double.unitRoundoff)) ∧
      elapsed * rate / 1000 * ((1 - Double.unitRoundoff) * (1 - Double.unitRoundoff)) ≤
        Double.toDouble (Double.toDouble ((elapsed : ℚ) / windowMs) * rate) := by
  have hunit : (0 : ℚ) ≤ 1 - Double.unitRoundoff := by norm_num [Double.unitRoundoff]
  have hunit' : (0 : ℚ) ≤ 1 + Double.unitRoundoff := by norm_num [Double.unitRoundoff]
  have helapsed : (0 : ℚ) ≤ elapsed := by exact_mod_cast h
  have hrate : (0 : ℚ) ≤ rate := Nat.cast_nonneg rate
  have hseconds : (0 : ℚ) ≤ (elapsed : ℚ) / 1000 := by positivity
  rw [show (windowMs : ℚ) = 1000 by norm_num [windowMs]]
  have hproduct := mul_nonneg (Double.toDouble_nonneg hseconds) hrate
  constructor
  · calc Double.toDouble (Double.toDouble ((elapsed : ℚ) / 1000) * rate)
        ≤ Double.toDouble ((elapsed : ℚ) / 1000) * rate * (1 + Double.unitRoundoff) := Double.toDouble_le hproduct
      _ ≤ (elapsed : ℚ) / 1000 * (1 + Double.unitRoundoff) * rate * (1 + Double.unitRoundoff) := by
          gcongr
          exact Double.toDouble_le hseconds
      _ = elapsed * rate / 1000 * ((1 + Double.unitRoundoff) * (1 + Double.unitRoundoff)) := by ring
  · calc elapsed * rate / 1000 * ((1 - Double.unitRoundoff) * (1 - Double.unitRoundoff))
        = (elapsed : ℚ) / 1000 * (1 - Double.unitRoundoff) * rate * (1 - Double.unitRoundoff) := by ring
      _ ≤ Double.toDouble ((elapsed : ℚ) / 1000) * rate * (1 - Double.unitRoundoff) := by
          gcongr
          exact Double.le_toDouble hseconds
      _ ≤ Double.toDouble (Double.toDouble ((elapsed : ℚ) / 1000) * rate) := Double.le_toDouble hproduct

/-- The roundings never make a token of less than one: 999 thousandths stay below it. -/
theorem refillAmount_whole (limits : ClientRateLimit) : WholeRefill limits (refillAmount limits.rps) where
  zero := by simp [refillAmount]
  nonneg := by
    intro elapsed h
    have hseconds : (0 : ℚ) ≤ (elapsed : ℚ) / windowMs := by
      have helapsed : (0 : ℚ) ≤ elapsed := by exact_mod_cast h
      exact div_nonneg helapsed (by norm_num [windowMs])
    exact Int.floor_nonneg.mpr
      (Double.toDouble_nonneg (mul_nonneg (Double.toDouble_nonneg hseconds) (Nat.cast_nonneg _)))
  early := by
    intro elapsed h hone
    by_contra hless
    have hcast : (elapsed : ℚ) * limits.rps ≤ 999 := by
      have : elapsed * limits.rps ≤ 999 := by omega
      exact_mod_cast this
    have hvalue : (1 : ℚ) ≤ Double.toDouble (Double.toDouble ((elapsed : ℚ) / windowMs) * limits.rps) := by
      have := Int.le_floor.mp hone
      exact_mod_cast this
    -- Two roundings cannot lift 999/1000 to a whole token.
    have hsquare : (0 : ℚ) ≤ (1 + Double.unitRoundoff) * (1 + Double.unitRoundoff) := by norm_num [Double.unitRoundoff]
    have hbelow : (999 : ℚ) / 1000 * ((1 + Double.unitRoundoff) * (1 + Double.unitRoundoff)) < 1 := by
      norm_num [Double.unitRoundoff]
    have hle := (refillAmount_bounds limits.rps h).1
    have hscaled := mul_le_mul_of_nonneg_right (show (elapsed : ℚ) * limits.rps / 1000 ≤ 999 / 1000 by linarith) hsquare
    linarith
  minute := by
    intro hrps
    have hrpsQ : (1 : ℚ) ≤ limits.rps := by exact_mod_cast hrps
    have hsquare : (1 : ℚ) ≤ 60 * ((1 - Double.unitRoundoff) * (1 - Double.unitRoundoff)) := by
      norm_num [Double.unitRoundoff]
    -- After a minute the loss of two roundings is less than what 59 more seconds bring.
    have hle := (refillAmount_bounds limits.rps (show (0 : ℤ) ≤ bucketTtlMs by decide)).2
    rw [show ((bucketTtlMs : ℤ) : ℚ) * limits.rps / 1000 = 60 * limits.rps by norm_num [bucketTtlMs]; ring] at hle
    have hscaled := mul_le_mul hrpsQ hsquare zero_le_one (zero_le_one.trans hrpsQ)
    refine Int.le_floor.mpr ?_
    push_cast
    linarith

/-- They may take a token away: a thousand a second refill 1000 in 1001 ms. -/
example : refillAmount 1000 1001 = 1000 := by decide +kernel

/-- The exact floor grants nothing early either. -/
theorem floor_whole (limits : ClientRateLimit) : WholeRefill limits (fun elapsed => elapsed * limits.rps / windowMs) where
  zero := by simp
  nonneg := fun elapsed h => Int.ediv_nonneg (mul_nonneg h (Nat.cast_nonneg _)) (by decide)
  early := by
    intro elapsed _ hone
    simp only [windowMs] at hone
    omega
  minute := by
    intro hrps
    simp only [windowMs, bucketTtlMs]
    omega

theorem neverUnderServes_iff {refill : ℤ → ℤ} {limits : ClientRateLimit} (hwhole : WholeRefill limits refill) :
    NeverUnderServes refill limits ↔
      ∀ elapsed, 0 < elapsed → elapsed ≤ bucketTtlMs → KeepsFraction refill limits elapsed := by
  constructor
  · intro hnever elapsed hpos hle
    by_contra hlost
    exact underServes_of_lost hwhole hpos hle hlost hnever
  · exact neverUnderServes_of_keeps hwhole.zero

/-- With the exact floor one millisecond decides it: limits that lose nothing over one lose nothing
over a longer time. -/
theorem floor_keeps_iff (limits : ClientRateLimit) :
    (∀ elapsed, 0 < elapsed → elapsed ≤ bucketTtlMs →
      KeepsFraction (fun elapsed => elapsed * limits.rps / windowMs) limits elapsed) ↔
      1000 ∣ limits.rps ∨ limits.burst ≤ max 1 (limits.rps / 1000) := by
  constructor
  · intro hkeeps
    have hone := hkeeps 1 (by decide) (by decide)
    simp only [KeepsFraction, windowMs] at hone
    omega
  · intro hlimits elapsed hpos _
    have hmore : (limits.rps : ℤ) ≤ elapsed * limits.rps := le_mul_of_one_le_left (Nat.cast_nonneg _) hpos
    simp only [KeepsFraction, windowMs]
    obtain ⟨k, hk⟩ | hburst := hlimits
    · -- whole tokens per millisecond
      refine .inl ?_
      have hwhole : elapsed * limits.rps = 1000 * (elapsed * k) := by
        rw [hk]
        push_cast
        ring
      omega
    · omega

/-- The script denies what an exact bucket would let through just where the refill since the last
allowed request has lost a fraction: no sequence of calls that loses none is under-served, and
for a client no sequence at all is if and only if no time within the 60 s of the key loses one.
Were the arithmetic exact, this would be a rate of whole tokens per millisecond, or a bucket
that one millisecond fills, or one of a single token. -/
theorem never_under_serves_iff (limits : ClientRateLimit) :
    (∀ arrivals, Ordered arrivals → StepsKeep (refillAmount limits.rps) limits none arrivals →
      DenialsDue (refillAmount limits.rps) limits none none arrivals) ∧
    (NeverUnderServes (refillAmount limits.rps) limits ↔
      ∀ elapsed, 0 < elapsed → elapsed ≤ bucketTtlMs → KeepsFraction (refillAmount limits.rps) limits elapsed) ∧
    (NeverUnderServes (fun elapsed => elapsed * limits.rps / windowMs) limits ↔
      1000 ∣ limits.rps ∨ limits.burst ≤ max 1 (limits.rps / 1000)) := by
  refine ⟨?_, neverUnderServes_iff (refillAmount_whole limits), ?_⟩
  · intro arrivals hord hkeep
    exact denialsDue_of_ordered hord hkeep
  · rw [neverUnderServes_iff (floor_whole limits)]
    exact floor_keeps_iff limits

/-- One request a second and a burst of two: of three calls at 0, 999 and 1998 ms the last is
denied, though the exact bucket holds 1.998 tokens. -/
theorem third_call_denied :
    Ordered [⟨0, false⟩, ⟨999, false⟩, ⟨1998, false⟩] ∧
      ¬ DenialsDue (refillAmount 1) ⟨1, 2, 1⟩ none none [⟨0, false⟩, ⟨999, false⟩, ⟨1998, false⟩] := by
  refine ⟨by simp [Ordered], ?_⟩
  have hwhole := refillAmount_whole ⟨1, 2, 1⟩
  have hlow := hwhole.nonneg 999 (by decide)
  have hhigh : refillAmount 1 999 < 1 := by
    by_contra hgrants
    exact absurd (hwhole.early 999 (by decide) (not_lt.mp hgrants)) (by decide)
  have hnone : refillAmount 1 999 = 0 := le_antisymm (Int.lt_add_one_iff.mp hhigh) hlow
  exact @not_denialsDue_of_fraction _ ⟨1, 2, 1⟩ 999 hwhole.zero 999 0 (by decide) (by decide) hnone hhigh rfl
    (by decide) (by decide)

end AiGateway
