import Mathlib.Data.List.Basic

/- Runs of a step function over a list of actions. `step s a = none` says that the
   action `a` is not enabled in `s`; a run is the state reached when every action of
   the list was enabled in turn. The rules below are the only inductions over runs:

   * `run_invariant`: what every step preserves, every run preserves;
   * `run_invariant_along`: the same for runs whose steps all meet a condition on the
     state before the step and the action taken (`Along`);
   * `run_history`: an invariant that also speaks of the actions taken so far. -/
namespace Runs

variable {σ α : Type}

/-- The state after the actions of the list, `none` once one of them is not enabled. -/
def run (step : σ → α → Option σ) : σ → List α → Option σ
  | s, [] => some s
  | s, a :: as => (step s a).bind fun s' => run step s' as

/-- Every step the run takes meets `P`, read at the state before the step. -/
def Along (step : σ → α → Option σ) (P : σ → α → Prop) : σ → List α → Prop
  | _, [] => True
  | s, a :: as => P s a ∧ match step s a with
    | some s' => Along step P s' as
    | none => True

instance Along.decidable (step : σ → α → Option σ) (P : σ → α → Prop) [∀ s a, Decidable (P s a)] :
    ∀ (s : σ) (as : List α), Decidable (Along step P s as)
  | _, [] => .isTrue trivial
  | s, a :: as =>
    have : Decidable (match step s a with | some s' => Along step P s' as | none => True) :=
      match step s a with
      | some s' => Along.decidable step P s' as
      | none => .isTrue trivial
    inferInstanceAs (Decidable (P s a ∧ match step s a with
      | some s' => Along step P s' as
      | none => True))

section Rules
variable {step : σ → α → Option σ} {s t : σ}

@[simp] theorem run_nil : run step s [] = some s := rfl

theorem run_cons {a : α} {as : List α} :
    run step s (a :: as) = some t ↔ ∃ s', step s a = some s' ∧ run step s' as = some t := by
  simp only [run, Option.bind_eq_some_iff]

theorem run_append {as bs : List α} :
    run step s (as ++ bs) = some t ↔ ∃ u, run step s as = some u ∧ run step u bs = some t := by
  induction as generalizing s with
  | nil => simp
  | cons a as ih =>
    simp only [List.cons_append, run_cons, ih]
    constructor
    · rintro ⟨s', hs', u, hu, ht⟩
      exact ⟨u, ⟨s', hs', hu⟩, ht⟩
    · rintro ⟨u, ⟨s', hs', hu⟩, ht⟩
      exact ⟨s', hs', u, hu, ht⟩

/-- What holds of the actions whatever the state holds along the run. -/
theorem along_of_mem {P : σ → α → Prop} {as : List α} (h : ∀ s, ∀ a ∈ as, P s a) : Along step P s as := by
  induction as generalizing s with
  | nil => trivial
  | cons a as ih =>
    refine ⟨h s a List.mem_cons_self, ?_⟩
    cases step s a with
    | none => trivial
    | some s' => exact ih fun u b hb => h u b (List.mem_cons_of_mem a hb)

theorem Along.and {P Q : σ → α → Prop} {as : List α} (hP : Along step P s as) (hQ : Along step Q s as) :
    Along step (fun s a => P s a ∧ Q s a) s as := by
  induction as generalizing s with
  | nil => trivial
  | cons a as ih =>
    obtain ⟨hp, hprest⟩ := hP
    obtain ⟨hq, hqrest⟩ := hQ
    refine ⟨⟨hp, hq⟩, ?_⟩
    cases hstep : step s a with
    | none => trivial
    | some s' =>
      rw [hstep] at hprest hqrest
      exact ih hprest hqrest

theorem run_invariant_along {I : σ → Prop} {P : σ → α → Prop}
    (hstep : ∀ s a s', I s → P s a → step s a = some s' → I s') {as : List α}
    (hs : I s) (halong : Along step P s as) (hrun : run step s as = some t) : I t := by
  induction as generalizing s with
  | nil => cases hrun; exact hs
  | cons a as ih =>
    obtain ⟨s', hs', ht⟩ := run_cons.mp hrun
    have hrest := halong.2
    rw [hs'] at hrest
    exact ih (hstep s a s' hs halong.1 hs') hrest ht

theorem run_invariant {I : σ → Prop} (hstep : ∀ s a s', I s → step s a = some s' → I s')
    {as : List α} (hs : I s) (hrun : run step s as = some t) : I t := by
  induction as generalizing s with
  | nil => cases hrun; exact hs
  | cons a as ih =>
    obtain ⟨s', hs', ht⟩ := run_cons.mp hrun
    exact ih (hstep s a s' hs hs') ht

/-- The invariant may read the actions taken so far, oldest first. -/
theorem run_history {I : List α → σ → Prop}
    (hstep : ∀ h s a s', I h s → step s a = some s' → I (h ++ [a]) s') {as : List α}
    (hs : I [] s) (hrun : run step s as = some t) : I as t := by
  have key : ∀ (bs : List α) (h : List α) (u : σ), I h u → run step u bs = some t →
      I (h ++ bs) t := by
    intro bs
    induction bs with
    | nil => intro h u hu hr; cases hr; simpa using hu
    | cons b bs ih =>
      intro h u hu hr
      obtain ⟨u', hu', ht⟩ := run_cons.mp hr
      have := ih (h ++ [b]) u' (hstep h u b u' hu hu') ht
      simpa using this
  simpa using key as [] s hs hrun

end Rules

end Runs
