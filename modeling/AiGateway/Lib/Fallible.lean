import Mathlib.Data.List.ReduceOption

/- Sequences of fallible steps in `Except`: when they end in a value. -/
namespace Fallible

variable {ε α β : Type}

/-- The computation ends in a value. -/
def Succeeds (x : Except ε α) : Prop := ∃ a, x = .ok a

theorem succeeds_ok (a : α) : Succeeds (.ok a : Except ε α) := ⟨a, rfl⟩

theorem not_succeeds_error (e : ε) : ¬ Succeeds (.error e : Except ε α) := by
  intro h
  obtain ⟨a, ha⟩ := h
  cases ha

theorem succeeds_bind {x : Except ε α} {f : α → Except ε β} :
    Succeeds (x >>= f) ↔ ∃ a, x = .ok a ∧ Succeeds (f a) := by
  cases x with
  | error e => simp [Succeeds, bind, Except.bind]
  | ok a => simp [bind, Except.bind]

theorem bind_eq_ok {x : Except ε α} {f : α → Except ε β} {b : β} :
    (x >>= f) = .ok b ↔ ∃ a, x = .ok a ∧ f a = .ok b := by
  cases x with
  | error e => simp [bind, Except.bind]
  | ok a => simp [bind, Except.bind]

theorem toOption_eq_some {x : Except ε α} {a : α} : x.toOption = some a ↔ x = .ok a := by
  cases x <;> simp [Except.toOption]

/-- A value that the rest succeeds on whatever it is. -/
theorem succeeds_bind_of {x : Except ε α} {f : α → Except ε β} {P : Prop}
    (hf : ∀ a, x = .ok a → (Succeeds (f a) ↔ P)) : Succeeds (x >>= f) ↔ Succeeds x ∧ P := by
  rw [succeeds_bind]
  constructor
  · intro h
    obtain ⟨a, ha, hfa⟩ := h
    exact ⟨⟨a, ha⟩, (hf a ha).mp hfa⟩
  · intro h
    obtain ⟨⟨a, ha⟩, hp⟩ := h
    exact ⟨a, ha, (hf a ha).mpr hp⟩

/-- A sequence whose last step only returns. -/
theorem succeeds_bind_ok {x : Except ε α} {f : α → β} :
    Succeeds (x >>= fun a => .ok (f a)) ↔ Succeeds x := by
  cases x with
  | error e => simp [Succeeds, bind, Except.bind]
  | ok a => simp [Succeeds, bind, Except.bind]

theorem succeeds_map {x : Except ε α} (f : α → β) : Succeeds (x.map f) ↔ Succeeds x := by
  cases x with
  | error e => simp [Except.map, not_succeeds_error]
  | ok a => simp [Except.map, succeeds_ok]

theorem succeeds_ite_error {p : Prop} [Decidable p] {e : ε} {x : Except ε α} :
    Succeeds (if p then .error e else x) ↔ ¬ p ∧ Succeeds x := by
  by_cases h : p
  · simp [h, not_succeeds_error]
  · simp [h]

/-- `for (const item of items) { ... }`, the results in order; the first throw ends it. -/
def collect (f : α → Except ε β) : List α → Except ε (List β)
  | [] => .ok []
  | a :: as => do
    let b ← f a
    let bs ← collect f as
    .ok (b :: bs)

theorem collect_cons {f : α → Except ε β} {a : α} {as : List α} {bs : List β}
    (h : collect f (a :: as) = .ok bs) :
    ∃ b rest, f a = .ok b ∧ collect f as = .ok rest ∧ bs = b :: rest := by
  cases ha : f a with
  | error e => simp [collect, ha, bind, Except.bind] at h
  | ok b =>
    cases has : collect f as with
    | error e => simp [collect, ha, has, bind, Except.bind] at h
    | ok rest =>
      simp only [collect, ha, has, bind, Except.bind, Except.ok.injEq] at h
      exact ⟨b, rest, rfl, rfl, h.symm⟩

theorem collect_forall₂ {f : α → Except ε β} {as : List α} {bs : List β} (h : collect f as = .ok bs) :
    List.Forall₂ (fun a b => f a = .ok b) as bs := by
  induction as generalizing bs with
  | nil =>
    cases h
    exact .nil
  | cons a as ih =>
    obtain ⟨b, rest, ha, hrest, rfl⟩ := collect_cons h
    exact .cons ha (ih hrest)

/-- The results are those of the items. -/
theorem mem_collect {f : α → Except ε β} {as : List α} {bs : List β} (h : collect f as = .ok bs) :
    (∀ b ∈ bs, ∃ a ∈ as, f a = .ok b) ∧ ∀ a ∈ as, ∃ b ∈ bs, f a = .ok b := by
  induction as generalizing bs with
  | nil =>
    cases h
    simp
  | cons a as ih =>
    obtain ⟨b, rest, ha, hrest, rfl⟩ := collect_cons h
    obtain ⟨hfrom, hto⟩ := ih hrest
    rw [List.forall_mem_cons, List.forall_mem_cons]
    refine ⟨⟨⟨a, List.mem_cons_self, ha⟩, fun b hb => ?_⟩, ⟨b, List.mem_cons_self, ha⟩, fun a ha => ?_⟩
    · obtain ⟨a, hmem, heq⟩ := hfrom b hb
      exact ⟨a, List.mem_cons_of_mem _ hmem, heq⟩
    · obtain ⟨b, hmem, heq⟩ := hto a ha
      exact ⟨b, List.mem_cons_of_mem _ hmem, heq⟩

theorem succeeds_collect {f : α → Except ε β} {as : List α} :
    Succeeds (collect f as) ↔ ∀ a ∈ as, Succeeds (f a) := by
  induction as with
  | nil => simp [collect, succeeds_ok]
  | cons a as ih =>
    have hrest : ∀ b, f a = .ok b →
        (Succeeds (do let bs ← collect f as; .ok (b :: bs)) ↔ ∀ a' ∈ as, Succeeds (f a')) := by
      intro b _
      rw [← ih]
      exact succeeds_bind_ok
    show Succeeds (f a >>= fun b => do let bs ← collect f as; .ok (b :: bs)) ↔ _
    rw [succeeds_bind_of hrest]
    simp

/-- Steps that all return: their results. -/
theorem collect_eq_map {f : α → Except ε β} {g : α → β} {as : List α} (h : ∀ a ∈ as, f a = .ok (g a)) :
    collect f as = .ok (as.map g) := by
  induction as with
  | nil => rfl
  | cons a as ih =>
    obtain ⟨ha, has⟩ := List.forall_mem_cons.mp h
    rw [collect, ha, ih has]
    rfl

/-- A search that may fail at every item finds nothing when it finds nothing at any. -/
theorem collect_reduceOption_eq_nil_iff {f : α → Except ε (Option β)} {as : List α} :
    (collect f as).map List.reduceOption = .ok [] ↔ ∀ a ∈ as, f a = .ok none := by
  induction as with
  | nil => simp [collect, Except.map]
  | cons a as ih =>
    rw [List.forall_mem_cons, ← ih]
    cases ha : f a with
    | error e => simp [collect, ha, bind, Except.bind, Except.map]
    | ok b =>
      cases has : collect f as with
      | error e => simp [collect, ha, has, bind, Except.bind, Except.map]
      | ok bs =>
        cases b with
        | none => simp [collect, ha, has, bind, Except.bind, Except.map]
        | some found => simp [collect, ha, has, bind, Except.bind, Except.map]

end Fallible
