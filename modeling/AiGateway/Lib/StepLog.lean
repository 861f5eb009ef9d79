import Mathlib.Data.List.Nodup

/- A list of steps that several runs work through, each run from where the one before it got:
   what is pending is the steps that are not recorded as done, and every execution of a step is
   logged with whether it was completed. As long as a run only executes the first pending step
   (`Covers`), the completed executions are the steps done, each once and in order, and no step
   is executed after it has been completed. -/
namespace StepLog

variable {ι : Type}

structure Execution (ι : Type) where
  step : ι
  completed : Bool
  deriving DecidableEq, Repr

/-- `steps.filter((step) => !done.includes(step))`. -/
def pending [DecidableEq ι] (steps done : List ι) : List ι := steps.filter fun step => step ∉ done

/-- The steps of the executions that were completed. -/
def completedSteps (log : List (Execution ι)) : List ι := (log.filter (·.completed)).map (·.step)

/-- No execution of a step comes after a completed one of the same step. -/
def NeverAgain (log : List (Execution ι)) : Prop :=
  log.Pairwise fun earlier later => earlier.completed = true → later.step ≠ earlier.step

/-- The log of runs that have got this far. -/
structure Covers (done : List ι) (log : List (Execution ι)) : Prop where
  completed : completedSteps log = done
  never_again : NeverAgain log

theorem pending_append [DecidableEq ι] {done rest : List ι} (h : (done ++ rest).Nodup) :
    pending (done ++ rest) done = rest := by
  have hdone : done.filter (fun step => step ∉ done) = [] := by
    rw [List.filter_eq_nil_iff]
    intro step hstep
    simp [hstep]
  have hrest : rest.filter (fun step => step ∉ done) = rest := by
    rw [List.filter_eq_self]
    intro step hstep
    have := List.disjoint_of_nodup_append h
    simpa using fun hmem => this hmem hstep
  rw [pending, List.filter_append, hdone, hrest, List.nil_append]

theorem completedSteps_append (log log' : List (Execution ι)) :
    completedSteps (log ++ log') = completedSteps log ++ completedSteps log' := by
  simp [completedSteps]

theorem covers_nil : Covers ([] : List ι) [] := ⟨rfl, List.Pairwise.nil⟩

namespace Covers
variable {done : List ι} {log : List (Execution ι)} {step : ι}

theorem step_mem (h : Covers done log) {e : Execution ι} (he : e ∈ log) (hc : e.completed = true) :
    e.step ∈ done := by
  rw [← h.completed]
  exact List.mem_map_of_mem (List.mem_filter.mpr ⟨he, hc⟩)

/-- An execution of a step that is not done yet. -/
theorem never_again_append (h : Covers done log) (hstep : step ∉ done) (completed : Bool) :
    NeverAgain (log ++ [⟨step, completed⟩]) := by
  rw [NeverAgain, List.pairwise_append]
  refine ⟨h.never_again, List.pairwise_singleton _ _, ?_⟩
  -- what was completed before is done, and the new execution is of a step that is not
  intro e he later hlater hc heq
  rw [List.mem_singleton.mp hlater] at heq
  have hmem := h.step_mem he hc
  rw [← heq] at hmem
  exact hstep hmem

theorem failed (h : Covers done log) (hstep : step ∉ done) : Covers done (log ++ [⟨step, false⟩]) := by
  refine ⟨?_, h.never_again_append hstep false⟩
  rw [completedSteps_append, h.completed]
  exact List.append_nil done

theorem succeeded (h : Covers done log) (hstep : step ∉ done) :
    Covers (done ++ [step]) (log ++ [⟨step, true⟩]) := by
  refine ⟨?_, h.never_again_append hstep true⟩
  rw [completedSteps_append, h.completed]
  rfl

end Covers

end StepLog
