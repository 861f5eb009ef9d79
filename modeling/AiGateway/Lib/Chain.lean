import Mathlib.Data.List.Nodup
import Mathlib.Data.List.Range
import Mathlib.Dynamics.PeriodicPts.Defs

/- Following a partial function from a start, step by step, until it is undefined.

   `neverReturns_iff`: no walk comes back to a place it has been at if and only if there is no
   ring, that is, no list of distinct places that the function leads around. -/
namespace Chain

variable {α : Type} (next : α → Option α)

/-- Where the walk from `start` stands after `n` steps, if it has not ended. -/
def follow (start : α) : ℕ → Option α
  | 0 => some start
  | n + 1 => (follow start n).bind next

/-- No walk visits a place twice. -/
def NeverReturns : Prop :=
  ∀ (start place : α) (i j : ℕ), i < j → follow next start i = some place → follow next start j ≠ some place

/-- Distinct places, each leading to the one after it and the last to the first. -/
structure Ring (ring : List α) : Prop where
  nonempty : ring ≠ []
  nodup : ring.Nodup
  closed : ∀ i < ring.length, ring[i]?.bind next = ring[(i + 1) % ring.length]?

variable {next}

theorem follow_add (start : α) (i n : ℕ) :
    follow next start (i + n) = (follow next start i).bind fun place => follow next place n := by
  induction n with
  | zero => simp [follow]
  | succ n ih =>
    show (follow next start (i + n)).bind next = _
    rw [ih, Option.bind_assoc]
    rfl

theorem follow_eq_iterate (start : α) (n : ℕ) : follow next start n = (fun o => o.bind next)^[n] (some start) := by
  induction n with
  | zero => rfl
  | succ n ih =>
    rw [Function.iterate_succ_apply', ← ih]
    rfl

/-- A walk that goes on after `n` steps stood somewhere at each step before. -/
theorem follow_isSome_of_le {start place : α} {k n : ℕ} (hle : k ≤ n) (hn : follow next start n = some place) :
    ∃ before, follow next start k = some before := by
  obtain ⟨m, rfl⟩ := Nat.exists_eq_add_of_le hle
  rw [follow_add] at hn
  obtain ⟨before, hbefore, -⟩ := Option.bind_eq_some_iff.mp hn
  exact ⟨before, hbefore⟩

/-- Going around a ring. -/
theorem Ring.follow_eq {ring : List α} (hring : Ring next ring) {first : α} (hfirst : ring[0]? = some first) (n : ℕ) :
    follow next first n = ring[n % ring.length]? := by
  have hpos : 0 < ring.length := List.length_pos_of_ne_nil hring.nonempty
  induction n with
  | zero => rw [Nat.zero_mod, hfirst]; rfl
  | succ n ih =>
    show (follow next first n).bind next = _
    rw [ih, hring.closed _ (Nat.mod_lt n hpos), Nat.mod_add_mod]

/-- A place that the walk comes back to lies on a ring: the shortest way around. -/
theorem exists_ring_of_return {place : α} {n : ℕ} (hpos : 0 < n) (hback : follow next place n = some place) :
    ∃ ring, Ring next ring := by
  set step : Option α → Option α := fun o => o.bind next with hstep
  have hperiodic : Function.IsPeriodicPt step n (some place) := by
    show step^[n] (some place) = some place
    rw [← follow_eq_iterate, hback]
  set p := Function.minimalPeriod step (some place) with hp
  have hp_pos : 0 < p := hperiodic.minimalPeriod_pos hpos
  have hround : follow next place p = some place := by
    rw [follow_eq_iterate]
    exact Function.iterate_minimalPeriod
  let stop : ℕ → α := fun k => (follow next place k).getD place
  have hstop : ∀ k ≤ p, follow next place k = some (stop k) := by
    intro k hk
    obtain ⟨before, hbefore⟩ := follow_isSome_of_le hk hround
    simp [stop, hbefore]
  refine ⟨(List.range p).map stop, ?_, ?_, ?_⟩
  · intro hnil
    have hlength := congrArg List.length hnil
    rw [List.length_map, List.length_range, List.length_nil] at hlength
    omega
  · -- the steps of one round are at different places
    refine List.Nodup.map_on ?_ List.nodup_range
    intro i hi j hj hij
    rw [List.mem_range] at hi hj
    refine Function.iterate_injOn_Iio_minimalPeriod (f := step) (x := some place) hi hj ?_
    show step^[i] (some place) = step^[j] (some place)
    rw [← follow_eq_iterate, ← follow_eq_iterate, hstop i hi.le, hstop j hj.le, hij]
  · intro i hi
    rw [List.length_map, List.length_range] at hi ⊢
    have hnext : (some (stop i)).bind next = some (stop (i + 1)) := by
      rw [← hstop i hi.le, ← hstop (i + 1) hi]
      rfl
    rw [List.getElem?_map, List.getElem?_range hi, Option.map_some, hnext]
    obtain hlt | heq : i + 1 < p ∨ i + 1 = p := by omega
    · rw [Nat.mod_eq_of_lt hlt, List.getElem?_map, List.getElem?_range hlt, Option.map_some]
    · have hzero : stop p = stop 0 := by
        rw [← Option.some_inj, ← hstop p le_rfl, ← hstop 0 (Nat.zero_le p), hround]
        rfl
      rw [heq, Nat.mod_self, List.getElem?_map, List.getElem?_range hp_pos, Option.map_some, hzero]

theorem neverReturns_iff : NeverReturns next ↔ ¬ ∃ ring, Ring next ring := by
  constructor
  · rintro hnever ⟨ring, hring⟩
    have hpos : 0 < ring.length := List.length_pos_of_ne_nil hring.nonempty
    obtain ⟨first, hfirst⟩ : ∃ first, ring[0]? = some first := ⟨_, List.getElem?_eq_getElem hpos⟩
    apply hnever first first 0 ring.length hpos rfl
    rw [hring.follow_eq hfirst, Nat.mod_self, hfirst]
  · intro hnone start place i j hij hi hj
    apply hnone
    obtain ⟨n, rfl⟩ := Nat.exists_eq_add_of_lt hij
    rw [Nat.add_assoc, follow_add, hi] at hj
    exact exists_ring_of_return (Nat.succ_pos n) hj

end Chain
