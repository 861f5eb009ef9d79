import Mathlib.Data.List.Basic

/- Tables of process states. A process is named by its position in the list; it is started
   by appending a state and moves by overwriting its own (`List.set`). The lemmas say what
   one move does to the other rows and to the number of rows with a property. A store by key
   is a function, and a write to it `Function.update`. -/
namespace Table

variable {α : Type}

theorem getElem?_set_cases {l : List α} {i j : Nat} {a b : α} (h : (l.set i a)[j]? = some b) :
    (i = j ∧ b = a) ∨ (i ≠ j ∧ l[j]? = some b) := by
  rw [List.getElem?_set] at h
  split at h
  · next hij =>
    split at h
    · cases h; exact .inl ⟨hij, rfl⟩
    · cases h
  · next hij => exact .inr ⟨hij, h⟩

theorem getElem?_snoc_cases {l : List α} {j : Nat} {a b : α} (h : (l ++ [a])[j]? = some b) :
    (j = l.length ∧ b = a) ∨ l[j]? = some b := by
  rcases Nat.lt_or_ge j l.length with hj | hj
  · rw [List.getElem?_append_left hj] at h; exact .inr h
  · rw [List.getElem?_append_right hj] at h
    cases hk : j - l.length with
    | zero => rw [hk] at h; simp at h; exact .inl ⟨by omega, h.symm⟩
    | succ k => rw [hk] at h; simp at h

section Overwrite
variable {β : Type} (f : α → β) {l : List α} {i j : Nat} {x a : α} (h : l[i]? = some x) (hf : f a = f x)
include h hf

/-- A row overwritten by one that `f` does not tell from it: every row reads as before. -/
theorem getElem?_of_set {u : α} (hu : (l.set i a)[j]? = some u) : ∃ v, l[j]? = some v ∧ f v = f u := by
  obtain ⟨rfl, rfl⟩ | ⟨-, hu⟩ := getElem?_set_cases hu
  · exact ⟨x, h, hf.symm⟩
  · exact ⟨u, hu, rfl⟩

theorem getElem?_set_of {v : α} (hv : l[j]? = some v) : ∃ u, (l.set i a)[j]? = some u ∧ f u = f v := by
  obtain ⟨hi, _⟩ := List.getElem?_eq_some_iff.mp h
  by_cases hj : i = j
  · subst hj
    rw [h] at hv
    cases hv
    exact ⟨a, List.getElem?_set_self hi, hf⟩
  · exact ⟨v, (List.getElem?_set_ne hj).trans hv, rfl⟩

end Overwrite

/-- Overwriting row `i` trades its old state for the new one in every count. -/
theorem countP_set_add (p : α → Bool) {l : List α} {i : Nat} {x : α} (a : α) (h : l[i]? = some x) :
    (l.set i a).countP p + (if p x then 1 else 0) = l.countP p + (if p a then 1 else 0) := by
  obtain ⟨hi, hx⟩ := List.getElem?_eq_some_iff.mp h
  have hpos : (if p x then 1 else 0) ≤ l.countP p := by
    split
    · next hp => exact List.countP_pos_iff.mpr ⟨x, List.mem_of_getElem? h, hp⟩
    · exact Nat.zero_le _
  rw [List.countP_set hi, hx]
  omega

/-- A cell after a write: the one written, or one that is as it was. -/
theorem update_cases {κ : Type} [DecidableEq κ] {f : κ → α} {key k : κ} {value : α} {P : α → Prop}
    (h : P (Function.update f key value k)) : (k ≠ key ∧ P (f k)) ∨ (k = key ∧ P value) := by
  by_cases hk : k = key
  · subst hk
    rw [Function.update_self] at h
    exact .inr ⟨rfl, h⟩
  · rw [Function.update_of_ne hk] at h
    exact .inl ⟨hk, h⟩

end Table
