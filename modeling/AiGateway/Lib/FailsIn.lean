import AiGateway.Lib.Fallible
import AiGateway.Lib.Logged

/- What a computation may fail with. `FailsIn P x` says that `P` holds of the error `x` ends in,
   if it ends in one; a composed computation fails in `P` when each of its parts does, so a
   program is followed from its throws outward, with one rule for each way of composing. -/

variable {ε ε' α β κ : Type}

def FailsIn (P : ε → Prop) (x : Except ε α) : Prop := ∀ e, x = .error e → P e

namespace FailsIn

variable {P Q : ε → Prop}

theorem ok (a : α) : FailsIn P (.ok a : Except ε α) := by
  intro e he
  cases he

theorem error {e : ε} (h : P e) : FailsIn P (.error e : Except ε α) := by
  intro e' he
  cases he
  exact h

theorem mono {x : Except ε α} (hx : FailsIn P x) (h : ∀ e, P e → Q e) : FailsIn Q x :=
  fun e he => h e (hx e he)

theorem bind {x : Except ε α} {f : α → Except ε β} (hx : FailsIn P x) (hf : ∀ a, FailsIn P (f a)) :
    FailsIn P (x >>= f) := by
  intro e he
  cases x with
  | error e' =>
    cases he
    exact hx e rfl
  | ok a => exact hf a e he

theorem map {x : Except ε α} (hx : FailsIn P x) (f : α → β) : FailsIn P (x.map f) := by
  intro e he
  cases x with
  | error e' =>
    cases he
    exact hx e rfl
  | ok a => cases he

/-- An error that is thrown under another name. -/
theorem mapError {x : Except ε' α} {f : ε' → ε} (hx : FailsIn (fun e => P (f e)) x) : FailsIn P (x.mapError f) := by
  intro e he
  cases x with
  | error e' =>
    cases he
    exact hx e' rfl
  | ok a => cases he

theorem ite {p : Prop} [Decidable p] {x y : Except ε α} (hx : p → FailsIn P x) (hy : ¬ p → FailsIn P y) :
    FailsIn P (if p then x else y) := by
  split
  · next h => exact hx h
  · next h => exact hy h

theorem mapM {f : α → Except ε β} {as : List α} (h : ∀ a ∈ as, FailsIn P (f a)) : FailsIn P (as.mapM f) := by
  induction as with
  | nil => exact ok _
  | cons a as ih =>
    rw [List.forall_mem_cons] at h
    rw [List.mapM_cons]
    exact bind h.1 fun _ => bind (ih h.2) fun _ => ok _

theorem collect {f : α → Except ε β} {as : List α} (h : ∀ a ∈ as, FailsIn P (f a)) :
    FailsIn P (Fallible.collect f as) := by
  induction as with
  | nil => exact ok _
  | cons a as ih =>
    rw [List.forall_mem_cons] at h
    exact bind h.1 fun _ => bind (ih h.2) fun _ => ok _

/-! Code that makes calls. -/

section Logged
variable {m : Logged κ ε α}

theorem andThen {f : α → Logged κ ε β} (hm : FailsIn P m.outcome) (hf : ∀ a, FailsIn P (f a).outcome) :
    FailsIn P (m >>= f).outcome := by
  intro e he
  obtain ⟨calls, outcome⟩ := m
  cases outcome with
  | error e' =>
    cases he
    exact hm e rfl
  | ok a => exact hf a e he

theorem mayThrow {thrown : Option ε} (h : ∀ e ∈ thrown, P e) :
    FailsIn P (Logged.mayThrow thrown : Logged κ ε Unit).outcome := by
  cases thrown with
  | none => exact ok _
  | some e => exact error (h e rfl)

theorem finally_ {after : Logged κ ε Unit} (hm : FailsIn P m.outcome) (hafter : FailsIn P after.outcome) :
    FailsIn P (Logged.finally_ m after).outcome := by
  unfold Logged.finally_
  cases hthrown : after.outcome with
  | ok a => exact hm
  | error e => exact error (hafter e hthrown)

theorem settle : FailsIn P m.settle.outcome := ok _

theorem mapCalls {κ' : Type} {f : κ → κ'} (hm : FailsIn P m.outcome) : FailsIn P (m.mapCalls f).outcome := hm

end Logged

end FailsIn
