import Mathlib.Algebra.Order.Field.Basic
import Mathlib.Data.List.Chain
import Mathlib.Tactic.Linarith
import Mathlib.Tactic.Ring

/- Metered sequences. Each entry is the instant of one admission and the level left
   after it; between two admissions the level gains at most `rate` per unit of time and
   every admission takes one unit away. Whatever else the meter does (rounding down,
   capping, forgetting), a sequence that meets this bound admits at most
   `cap + rate · D` times in a window of length `D` (`Metered.count_window`). -/
namespace Meter

variable {K : Type} [Field K] [LinearOrder K] [IsStrictOrderedRing K]

/-- One admission: when, and the level it leaves. -/
structure Admission (K : Type) where
  at_ : K
  left : K

/-- `b` may follow `a`: no more was gained than the rate allows, and one unit was taken. -/
def Follows (rate : K) (a b : Admission K) : Prop :=
  a.at_ ≤ b.at_ ∧ b.left ≤ a.left + rate * (b.at_ - a.at_) - 1

/-- Consecutive admissions follow each other, and every level left is in `[0, cap - 1]`. -/
structure Metered (rate cap : K) (l : List (Admission K)) : Prop where
  chain : l.IsChain (Follows rate)
  left_nonneg : ∀ a ∈ l, 0 ≤ a.left
  left_le : ∀ a ∈ l, a.left ≤ cap - 1

/-- What was gained between two admissions pays for every admission after the first. -/
theorem Follows.trans {rate : K} {a b c : Admission K} (hab : Follows rate a b)
    (hbc : Follows rate b c) : Follows rate a c := by
  refine ⟨hab.1.trans hbc.1, ?_⟩
  have h := hbc.2
  have h' := hab.2
  linarith

instance (rate : K) : IsTrans (Admission K) (Follows rate) := ⟨fun _ _ _ => Follows.trans⟩

/-- Along a chain starting at `a`, each further admission costs one unit out of what `a`
left and what was gained until the last one. -/
theorem chain_spends {rate : K} {a : Admission K} {l : List (Admission K)}
    (h : (a :: l).IsChain (Follows rate)) :
    ∀ z ∈ (a :: l).getLast?, z.left + l.length ≤ a.left + rate * (z.at_ - a.at_) := by
  induction l generalizing a with
  | nil => intro z hz; simp at hz; subst hz; simp
  | cons b l ih =>
    intro z hz
    obtain ⟨hab, hchain⟩ := List.isChain_cons_cons.mp h
    have hrest := ih hchain z (by simpa using hz)
    have hstep := hab.2
    push_cast [List.length_cons]
    linarith

/-- The admissions inside a closed window of length `D` are at most `cap + rate · D`. -/
theorem Metered.count_window {rate cap w D : K} {l : List (Admission K)}
    (h : Metered rate cap l) (hrate : 0 ≤ rate) (hcap : 0 ≤ cap) (hD : 0 ≤ D) :
    ((l.filter fun a => w ≤ a.at_ ∧ a.at_ ≤ w + D).length : K) ≤ cap + rate * D := by
  -- dropping entries of a chain leaves a chain, because `Follows` is transitive
  have hchain : (l.filter fun a => w ≤ a.at_ ∧ a.at_ ≤ w + D).IsChain (Follows rate) :=
    h.chain.sublist List.filter_sublist
  have hin : ∀ a ∈ l.filter (fun a => w ≤ a.at_ ∧ a.at_ ≤ w + D),
      a ∈ l ∧ w ≤ a.at_ ∧ a.at_ ≤ w + D := by
    intro a ha
    simpa using ha
  generalize l.filter (fun a => w ≤ a.at_ ∧ a.at_ ≤ w + D) = m at hchain hin
  cases m with
  | nil => simpa using add_nonneg hcap (mul_nonneg hrate hD)
  | cons a m =>
    obtain ⟨z, hz⟩ : ∃ z, (a :: m).getLast? = some z := ⟨_, List.getLast?_eq_some_getLast (by simp)⟩
    have hzmem : z ∈ a :: m := List.mem_of_getLast? hz
    have hspend := chain_spends hchain z hz
    have hz0 := h.left_nonneg z (hin z hzmem).1
    have ha := hin a List.mem_cons_self
    have hacap := h.left_le a ha.1
    have hspan : rate * (z.at_ - a.at_) ≤ rate * D := by
      apply mul_le_mul_of_nonneg_left _ hrate
      have := (hin z hzmem).2.2
      linarith [ha.2.1]
    push_cast [List.length_cons]
    linarith

end Meter
