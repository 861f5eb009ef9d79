import Mathlib.Data.List.SplitBy
import Mathlib.Data.List.TakeWhile

/- A loop that goes through a list item by item, and takes items of one kind together: after the
   first of them an inner loop takes those that follow at once. What the loop pushes is given by
   the maximal runs of the list (`mapRuns_eq`), and where a run is pushed item by item, by the
   items (`mapRuns_each`): no item is skipped or taken twice where a run ends. -/
namespace RunLoop

variable {α β γ : Type}

section Loop
variable (inRun : α → Option γ)

/-- The inner loop: what the items of the run say from here on, and the items after them. -/
def takeRun : List α → List γ × List α
  | [] => ([], [])
  | x :: xs =>
    match inRun x with
    | some c => (c :: (takeRun xs).1, (takeRun xs).2)
    | none => ([], x :: xs)

theorem takeRun_length (xs : List α) : (takeRun inRun xs).2.length ≤ xs.length := by
  induction xs with
  | nil => simp [takeRun]
  | cons x xs ih =>
    cases hx : inRun x with
    | none => simp [takeRun, hx]
    | some c =>
      simp only [takeRun, hx, List.length_cons]
      omega

/-- The outer loop, with what is pushed for an item that stands alone and for a run. -/
def mapRuns (single : α → List β) (run : List γ → List β) : List α → List β
  | [] => []
  | x :: xs =>
    match inRun x with
    | some c => run (c :: (takeRun inRun xs).1) ++ mapRuns single run (takeRun inRun xs).2
    | none => single x ++ mapRuns single run xs
termination_by xs => xs.length
decreasing_by
  · have := takeRun_length inRun xs
    simp only [List.length_cons]
    omega
  · simp

/-- The list cut into its maximal runs; every other item is a group of its own. -/
def runs (xs : List α) : List (List α) := xs.splitBy fun a b => (inRun a).isSome && (inRun b).isSome

/-- What the loop pushes for a group. -/
def pushGroup (single : α → List β) (run : List γ → List β) (group : List α) : List β :=
  match group.filterMap inRun with
  | [] => group.flatMap single
  | c :: cs => run (c :: cs)

end Loop

section Lemmas
variable {inRun : α → Option γ} {single : α → List β} {run : List γ → List β}

theorem mapRuns_none {x : α} (hx : inRun x = none) (xs : List α) :
    mapRuns inRun single run (x :: xs) = single x ++ mapRuns inRun single run xs := by
  rw [mapRuns]
  split
  · next c hc =>
    rw [hx] at hc
    cases hc
  · rfl

theorem mapRuns_some {x : α} {c : γ} (hx : inRun x = some c) (xs : List α) :
    mapRuns inRun single run (x :: xs) =
      run (c :: (takeRun inRun xs).1) ++ mapRuns inRun single run (takeRun inRun xs).2 := by
  rw [mapRuns]
  split
  · next d hd =>
    rw [hx] at hd
    cases hd
    rfl
  · next hd =>
    rw [hx] at hd
    cases hd

/-- The inner loop takes a longest prefix. -/
theorem takeRun_eq (xs : List α) :
    takeRun inRun xs = ((xs.takeWhile fun x => (inRun x).isSome).filterMap inRun, xs.dropWhile fun x => (inRun x).isSome) := by
  induction xs with
  | nil => rfl
  | cons x xs ih =>
    cases hx : inRun x with
    | none => simp [takeRun, hx]
    | some c => simp [takeRun, hx, ih]

theorem takeRun_lt {x : α} (xs : List α) : (takeRun inRun xs).2.length < (x :: xs).length := by
  have := takeRun_length inRun xs
  rw [List.length_cons]
  omega

/-- The groups from an item that stands alone on. -/
theorem runs_none {x : α} (hx : inRun x = none) (xs : List α) : runs inRun (x :: xs) = [x] :: runs inRun xs := by
  show List.splitBy _ ([x] ++ xs) = _
  rw [List.splitBy_append (by simp [hx])]
  rfl

/-- The groups from the first item of a run on. -/
theorem runs_some {x : α} (hx : (inRun x).isSome = true) (xs : List α) :
    runs inRun (x :: xs) =
      (x :: xs.takeWhile fun y => (inRun y).isSome) :: runs inRun (xs.dropWhile fun y => (inRun y).isSome) := by
  have hall : ∀ y ∈ x :: xs.takeWhile fun y => (inRun y).isSome, (inRun y).isSome = true := by
    intro y hy
    obtain rfl | hy := List.mem_cons.mp hy
    · exact hx
    · have hrun := List.mem_takeWhile_imp hy
      exact hrun
  have hchain : (x :: xs.takeWhile fun y => (inRun y).isSome).IsChain
      fun a b => ((inRun a).isSome && (inRun b).isSome) = true := by
    apply List.Pairwise.isChain
    rw [List.pairwise_iff_forall_sublist]
    intro a b hab
    rw [hall a (hab.subset (by simp)), hall b (hab.subset (by simp))]
    rfl
  have hsplit : x :: xs = (x :: xs.takeWhile fun y => (inRun y).isSome) ++ xs.dropWhile fun y => (inRun y).isSome := by
    rw [List.cons_append, List.takeWhile_append_dropWhile]
  unfold runs
  rw [hsplit, List.splitBy_append, List.splitBy_of_isChain (List.cons_ne_nil _ _) hchain]
  · simp
  · -- what stopped the run is outside it
    intro a _ b hb
    have hb : (inRun b).isSome = false := by
      have := List.head?_dropWhile_not (fun y => (inRun y).isSome) xs
      rw [hb] at this
      simpa using this
    rw [hb, Bool.and_false]

theorem flatten_runs (xs : List α) : (runs inRun xs).flatten = xs := List.flatten_splitBy _ xs

/-- What goes on from an item of a run stays in the run. -/
theorem inRun_of_chain {x : α} {xs : List α} (hx : (inRun x).isSome = true)
    (h : (x :: xs).IsChain fun a b => ((inRun a).isSome && (inRun b).isSome) = true) :
    ∀ y ∈ x :: xs, (inRun y).isSome = true := by
  induction xs generalizing x with
  | nil =>
    intro y hy
    rw [List.mem_singleton.mp hy]
    exact hx
  | cons next xs ih =>
    rw [List.isChain_cons_cons, Bool.and_eq_true] at h
    intro y hy
    obtain rfl | hy := List.mem_cons.mp hy
    · exact hx
    · exact ih h.1.2 h.2 y hy

/-- A group is one item that stands alone, or a run. -/
theorem group_cases {xs group : List α} (h : group ∈ runs inRun xs) :
    (∃ x, group = [x] ∧ inRun x = none) ∨ (group ≠ [] ∧ ∀ x ∈ group, (inRun x).isSome = true) := by
  have hne := List.ne_nil_of_mem_splitBy h
  have hchain := List.isChain_of_mem_splitBy h
  cases group with
  | nil => exact absurd rfl hne
  | cons x group =>
    cases hx : inRun x with
    | none =>
      -- an item outside the runs is in no chain with another
      cases group with
      | nil => exact .inl ⟨x, rfl, hx⟩
      | cons y group => simp [hx] at hchain
    | some c => exact .inr ⟨hne, inRun_of_chain (by rw [hx]; rfl) hchain⟩

theorem pushGroup_single {x : α} (hx : inRun x = none) : pushGroup inRun single run [x] = single x := by
  unfold pushGroup
  rw [List.filterMap_cons_none hx, List.filterMap_nil, List.flatMap_singleton]

theorem pushGroup_run {group : List α} (hne : group ≠ []) (hall : ∀ x ∈ group, (inRun x).isSome = true) :
    pushGroup inRun single run group = run (group.filterMap inRun) := by
  cases group with
  | nil => exact absurd rfl hne
  | cons x group =>
    obtain ⟨c, hc⟩ := Option.isSome_iff_exists.mp (hall x List.mem_cons_self)
    unfold pushGroup
    rw [List.filterMap_cons_some hc]

/-- The loop pushes what its groups say. -/
theorem mapRuns_eq (xs : List α) :
    mapRuns inRun single run xs = (runs inRun xs).flatMap (pushGroup inRun single run) := by
  -- on the length, as the loop goes on after a whole run
  induction hn : xs.length using Nat.strong_induction_on generalizing xs with
  | _ n ih =>
    cases xs with
    | nil => simp [mapRuns, runs]
    | cons x xs =>
      cases hx : inRun x with
      | none =>
        rw [mapRuns_none hx, runs_none hx, List.flatMap_cons, ih xs.length (by simp [← hn]) xs rfl]
        simp [pushGroup, hx]
      | some c =>
        have hlt : (takeRun inRun xs).2.length < n := hn ▸ takeRun_lt xs
        rw [mapRuns_some hx, runs_some (by rw [hx]; rfl), List.flatMap_cons, ih _ hlt _ rfl, takeRun_eq]
        simp [pushGroup, hx]

/-- A run that is pushed item by item, and what is pushed for the items after it. -/
theorem takeRun_each (one : γ → List β) (xs : List α) :
    (takeRun inRun xs).1.flatMap one ++ (takeRun inRun xs).2.flatMap (fun x => (inRun x).elim (single x) one) =
      xs.flatMap fun x => (inRun x).elim (single x) one := by
  induction xs with
  | nil => rfl
  | cons x xs ih =>
    cases hx : inRun x with
    | none => simp [takeRun, hx]
    | some c => simp [takeRun, hx, ← ih]

/-- A loop that pushes its runs item by item goes through the list item by item. -/
theorem mapRuns_each {one : γ → List β} (hrun : ∀ cs, run cs = cs.flatMap one) (xs : List α) :
    mapRuns inRun single run xs = xs.flatMap fun x => (inRun x).elim (single x) one := by
  induction hn : xs.length using Nat.strong_induction_on generalizing xs with
  | _ n ih =>
    cases xs with
    | nil => simp [mapRuns]
    | cons x xs =>
      cases hx : inRun x with
      | none =>
        rw [mapRuns_none hx, ih xs.length (by simp [← hn]) xs rfl, List.flatMap_cons, hx]
        rfl
      | some c =>
        have hlt : (takeRun inRun xs).2.length < n := hn ▸ takeRun_lt xs
        rw [mapRuns_some hx, ih _ hlt _ rfl, hrun, List.flatMap_cons, List.append_assoc, takeRun_each,
          List.flatMap_cons, hx]
        rfl

end Lemmas

end RunLoop
