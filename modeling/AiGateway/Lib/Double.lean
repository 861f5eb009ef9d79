import Mathlib.Data.Int.Log
import Mathlib.Data.Rat.Floor
import Mathlib.Tactic.Linarith
import Mathlib.Tactic.Ring
import Mathlib.Tactic.NormNum
import Mathlib.Tactic.Positivity

/- Rounding to the nearest double, ties to even. `toDouble` is for numbers that are not negative
   and well inside the exponent range: 53 significant bits. What the proofs use is the relative
   error, at most `2 ^ -53` to either side (`toDouble_le`, `le_toDouble`). `nearest` is for all
   numbers; `finite?` says which of them are doubles still, and not infinite. -/
namespace Double

/-- The weight of the last of the 53 bits of a number of this size. -/
def ulp (q : ℚ) : ℚ := 2 ^ (Int.log 2 q - 52)

/-- The nearest integer, the even one of two. -/
def roundEven (q : ℚ) : ℤ :=
  if q - ⌊q⌋ < 1 / 2 then ⌊q⌋
  else if 1 / 2 < q - ⌊q⌋ then ⌊q⌋ + 1
  else if ⌊q⌋ % 2 = 0 then ⌊q⌋ else ⌊q⌋ + 1

def toDouble (q : ℚ) : ℚ := if q ≤ 0 then 0 else roundEven (q / ulp q) * ulp q

/-- Half the last bit, relative to the number. -/
def unitRoundoff : ℚ := 1 / 2 ^ 53

theorem roundEven_le (q : ℚ) : (roundEven q : ℚ) ≤ q + 1 / 2 := by
  have hfloor : (⌊q⌋ : ℚ) ≤ q := Int.floor_le q
  unfold roundEven
  split
  · linarith
  · next h =>
    split
    · push_cast
      linarith
    · split
      · linarith
      · push_cast
        linarith

theorem le_roundEven (q : ℚ) : q - 1 / 2 ≤ (roundEven q : ℚ) := by
  have hfloor : q < ⌊q⌋ + 1 := Int.lt_floor_add_one q
  unfold roundEven
  split
  · next h => linarith
  · split
    · push_cast
      linarith
    · next h =>
      split
      · linarith
      · push_cast
        linarith

theorem ulp_pos (q : ℚ) : 0 < ulp q := zpow_pos (by norm_num) _

theorem ulp_le {q : ℚ} (hq : 0 < q) : ulp q ≤ q * (2 * unitRoundoff) := by
  have hlog : (2 : ℚ) ^ Int.log 2 q ≤ q := by exact_mod_cast Int.zpow_log_le_self (by norm_num : 1 < 2) hq
  have hscale : (2 : ℚ) ^ (-52 : ℤ) = 2 * unitRoundoff := by norm_num [unitRoundoff]
  calc ulp q = 2 ^ Int.log 2 q * (2 : ℚ) ^ (-52 : ℤ) := by
        rw [ulp, sub_eq_add_neg, zpow_add₀ (by norm_num : (2 : ℚ) ≠ 0)]
    _ ≤ q * (2 : ℚ) ^ (-52 : ℤ) := mul_le_mul_of_nonneg_right hlog (by positivity)
    _ = q * (2 * unitRoundoff) := by rw [hscale]

@[simp] theorem toDouble_zero : toDouble 0 = 0 := if_pos le_rfl

theorem toDouble_le {q : ℚ} (hq : 0 ≤ q) : toDouble q ≤ q * (1 + unitRoundoff) := by
  obtain hzero | hpos := hq.eq_or_lt
  · rw [← hzero]
    simp
  · have hulp := ulp_pos q
    calc toDouble q = roundEven (q / ulp q) * ulp q := if_neg (not_le.mpr hpos)
      _ ≤ (q / ulp q + 1 / 2) * ulp q := mul_le_mul_of_nonneg_right (roundEven_le _) hulp.le
      _ = q + ulp q / 2 := by field_simp
      _ ≤ q + q * (2 * unitRoundoff) / 2 := by linarith [ulp_le hpos]
      _ = q * (1 + unitRoundoff) := by ring

theorem le_toDouble {q : ℚ} (hq : 0 ≤ q) : q * (1 - unitRoundoff) ≤ toDouble q := by
  obtain hzero | hpos := hq.eq_or_lt
  · rw [← hzero]
    simp
  · have hulp := ulp_pos q
    calc q * (1 - unitRoundoff) = q - q * (2 * unitRoundoff) / 2 := by ring
      _ ≤ q - ulp q / 2 := by linarith [ulp_le hpos]
      _ = (q / ulp q - 1 / 2) * ulp q := by field_simp
      _ ≤ roundEven (q / ulp q) * ulp q := mul_le_mul_of_nonneg_right (le_roundEven _) hulp.le
      _ = toDouble q := (if_neg (not_le.mpr hpos)).symm

theorem toDouble_nonneg {q : ℚ} (hq : 0 ≤ q) : 0 ≤ toDouble q := by
  have hunit : (0 : ℚ) ≤ 1 - unitRoundoff := by norm_num [unitRoundoff]
  exact (mul_nonneg hq hunit).trans (le_toDouble hq)

/-- The weight of the last bit of the doubles next to a number of this size; subnormal doubles
have the smallest. -/
def lastBit (q : ℚ) : ℚ := 2 ^ max (Int.log 2 q - 52) (-1074)

/-- The nearest double, with no largest one; a number and its negative round alike. -/
def nearest (q : ℚ) : ℚ :=
  if q = 0 then 0
  else if q < 0 then -(roundEven (-q / lastBit (-q)) * lastBit (-q))
  else roundEven (q / lastBit q) * lastBit q

/-- The nearest double where it is finite. -/
def finite? (q : ℚ) : Option ℚ := if |nearest q| < 2 ^ 1024 then some (nearest q) else none

theorem roundEven_intCast (n : ℤ) : roundEven n = n := by
  unfold roundEven
  rw [Int.floor_intCast, sub_self, if_pos (by norm_num)]

/-- Natural numbers of up to 53 bits are doubles. -/
theorem nearest_natCast {n : ℕ} (h : n < 2 ^ 53) : nearest n = n := by
  obtain rfl | hpos := Nat.eq_zero_or_pos n
  · simp [nearest]
  · have hq : (0 : ℚ) < n := by exact_mod_cast hpos
    have hlog : Int.log 2 (n : ℚ) ≤ 52 := by
      have hlt : (n : ℚ) < 2 ^ (53 : ℤ) := by exact_mod_cast h
      have := (Int.lt_zpow_iff_log_lt (by norm_num : 1 < 2) hq).mp hlt
      omega
    obtain ⟨k, hk⟩ : ∃ k : ℕ, max (Int.log 2 (n : ℚ) - 52) (-1074) = -(k : ℤ) :=
      ⟨(-max (Int.log 2 (n : ℚ) - 52) (-1074)).toNat, by omega⟩
    -- the last bit is a fraction, so the number is a multiple of it
    have hbit : lastBit (n : ℚ) = (2 ^ k)⁻¹ := by
      rw [lastBit, hk, zpow_neg, zpow_natCast]
    have hmul : (n : ℚ) / lastBit n = ((n * 2 ^ k : ℤ) : ℚ) := by
      rw [hbit, div_inv_eq_mul]
      push_cast
      rfl
    rw [nearest, if_neg hq.ne', if_neg (not_lt.mpr hq.le), hmul, roundEven_intCast, ← hmul]
    exact div_mul_cancel₀ _ (zpow_pos (by norm_num) _).ne'

theorem finite?_natCast {n : ℕ} (h : n < 2 ^ 53) : finite? n = some (n : ℚ) := by
  have hbound : |(n : ℚ)| < 2 ^ 1024 := by
    rw [Nat.abs_cast]
    exact_mod_cast h.trans_le (Nat.pow_le_pow_right (by decide) (by decide))
  rw [finite?, nearest_natCast h, if_pos hbound]

end Double
