import Mathlib.Algebra.BigOperators.Group.List.Basic
import Mathlib.Algebra.GroupWithZero.Nat
import Mathlib.Data.List.Basic

/- Texts joined with a separator, at once or group by group: the groups are joined first, those
   that come out empty are dropped, and what is left is joined.

   `joined_iff`: both ways give the same if and only if there is at most one text or no group
   is a single empty text. `joined_ne_of_lt`: texts with more separators between them give
   something else. -/
namespace JoinedGroups

variable (sep : String)

/-- The groups, joined each on its own. -/
def kept (groups : List (List String)) : List String := (groups.map sep.intercalate).filter (· ≠ "")

/-- The length of the texts with one separator for each. -/
def weight (texts : List String) : ℕ := (texts.map fun text => text.length + sep.length).sum

variable {sep}

theorem weight_append (first second : List String) : weight sep (first ++ second) = weight sep first + weight sep second := by
  simp [weight]

theorem intercalate_length {texts : List String} (hne : texts ≠ []) :
    (sep.intercalate texts).length + sep.length = weight sep texts := by
  induction texts with
  | nil => exact absurd rfl hne
  | cons text texts ih =>
    by_cases hrest : texts = []
    · simp [hrest, weight]
    · have hlength := ih hrest
      rw [String.intercalate_cons_of_ne_nil hrest, String.length_append, String.length_append]
      simp only [weight, List.map_cons, List.sum_cons] at hlength ⊢
      omega

section Separated
variable (hsep : 0 < sep.length)

include hsep

theorem intercalate_eq_empty {texts : List String} : sep.intercalate texts = "" ↔ texts = [] ∨ texts = [""] := by
  constructor
  · intro hempty
    match texts with
    | [] => exact .inl rfl
    | [text] =>
      rw [String.intercalate_singleton] at hempty
      exact .inr (by rw [hempty])
    | text :: next :: rest =>
      have hlength := congrArg String.length hempty
      rw [String.intercalate_cons_cons, String.length_append, String.length_append, String.length_empty] at hlength
      omega
  · rintro (rfl | rfl) <;> simp

theorem kept_cons_of_empty {group : List String} (h : group = [] ∨ group = [""]) (groups : List (List String)) :
    kept sep (group :: groups) = kept sep groups := by
  have hempty := (intercalate_eq_empty hsep).mpr h
  simp [kept, hempty]

theorem kept_cons_of_ne {group : List String} (h : ¬ (group = [] ∨ group = [""])) (groups : List (List String)) :
    kept sep (group :: groups) = sep.intercalate group :: kept sep groups := by
  have hne := mt (intercalate_eq_empty hsep).mp h
  simp [kept, hne]

/-- What is kept is the length of all texts, less what the single empty ones would take. -/
theorem kept_weight (groups : List (List String)) :
    weight sep (kept sep groups) + groups.count [""] * sep.length = weight sep groups.flatten := by
  induction groups with
  | nil => simp [kept, weight]
  | cons group groups ih =>
    rw [List.flatten_cons, weight_append, ← ih]
    by_cases hempty : group = [] ∨ group = [""]
    · rw [kept_cons_of_empty hsep hempty]
      obtain rfl | rfl := hempty
      · simp [weight]
      · rw [List.count_cons_self, Nat.succ_mul]
        simp only [weight, List.map_cons, List.map_nil, List.sum_cons, List.sum_nil, String.length_empty]
        omega
    · obtain ⟨hnil, hlone⟩ := not_or.mp hempty
      rw [kept_cons_of_ne hsep hempty, List.count_cons_of_ne hlone, ← intercalate_length hnil]
      simp only [weight, List.map_cons, List.sum_cons]
      omega

theorem kept_eq_nil {groups : List (List String)} : kept sep groups = [] ↔ ∀ group ∈ groups, group = [] ∨ group = [""] := by
  simp [kept, List.filter_eq_nil_iff, intercalate_eq_empty hsep]

/-- Without single empty texts the groups do not matter. -/
theorem intercalate_kept {groups : List (List String)} (hlone : [""] ∉ groups) :
    sep.intercalate (kept sep groups) = sep.intercalate groups.flatten := by
  induction groups with
  | nil => rfl
  | cons group groups ih =>
    have hrest : [""] ∉ groups := fun hmem => hlone (List.mem_cons_of_mem _ hmem)
    have hhead : group ≠ [""] := fun heq => hlone (heq ▸ List.mem_cons_self)
    by_cases hnil : group = []
    · rw [kept_cons_of_empty hsep (.inl hnil), ih hrest, hnil]
      rfl
    · rw [kept_cons_of_ne hsep (not_or.mpr ⟨hnil, hhead⟩), List.flatten_cons]
      by_cases hkept : kept sep groups = []
      · have hflat : groups.flatten = [] := by
          rw [List.flatten_eq_nil_iff]
          intro g hg
          exact ((kept_eq_nil hsep).mp hkept g hg).resolve_right fun heq => hrest (heq ▸ hg)
        rw [hkept, hflat, List.append_nil, String.intercalate_singleton]
      · have hflat : groups.flatten ≠ [] := by
          intro hflat
          apply hkept
          rw [kept_eq_nil hsep]
          intro g hg
          exact .inl (List.flatten_eq_nil_iff.mp hflat g hg)
        rw [String.intercalate_cons_of_ne_nil hkept, ih hrest, String.intercalate_append_of_ne_nil hnil hflat]

theorem joined_iff (groups : List (List String)) :
    sep.intercalate (kept sep groups) = sep.intercalate groups.flatten ↔ groups.flatten.length ≤ 1 ∨ [""] ∉ groups := by
  constructor
  · intro heq
    by_cases hlone : [""] ∈ groups
    · left
      by_cases hkept : kept sep groups = []
      · -- nothing is left, so the texts are one empty text at most
        rw [hkept, String.intercalate_nil] at heq
        obtain hnil | hone := (intercalate_eq_empty hsep).mp heq.symm
        · simp [hnil]
        · simp [hone]
      · have hflat : groups.flatten ≠ [] := by
          intro hflat
          cases List.flatten_eq_nil_iff.mp hflat _ hlone
        have hcount : 0 < groups.count [""] * sep.length := Nat.mul_pos (List.count_pos_iff.mpr hlone) hsep
        have hweight := kept_weight hsep groups
        rw [← intercalate_length hkept, ← intercalate_length hflat, heq] at hweight
        omega
    · exact .inr hlone
  · rintro (hshort | hlone)
    · by_cases hlone : [""] ∈ groups
      · have hmem : "" ∈ groups.flatten := List.mem_flatten.mpr ⟨_, hlone, List.mem_singleton_self ""⟩
        have hone : groups.flatten = [""] := by
          obtain ⟨text, htext⟩ := List.length_eq_one_iff.mp (Nat.le_antisymm hshort (List.length_pos_of_mem hmem))
          rw [htext] at hmem ⊢
          rw [List.mem_singleton.mp hmem]
        have hkept : kept sep groups = [] := by
          rw [kept_eq_nil hsep]
          intro group hgroup
          match group, hgroup with
          | [], _ => exact .inl rfl
          | text :: rest, hgroup =>
            right
            have hsub := (List.sublist_flatten_of_mem hgroup)
            rw [hone] at hsub
            exact hsub.eq_of_length_le (by simp)
        rw [hkept, hone]
        simp
      · exact intercalate_kept hsep hlone
    · exact intercalate_kept hsep hlone

/-- Texts with less between them are something else. -/
theorem joined_ne_of_lt {groups : List (List String)} {texts : List String} (hne : texts ≠ [])
    (hlt : weight sep texts < weight sep groups.flatten) (hlone : [""] ∉ groups) :
    sep.intercalate (kept sep groups) ≠ sep.intercalate texts := by
  intro heq
  rw [intercalate_kept hsep hlone] at heq
  have hflat : groups.flatten ≠ [] := by
    intro hnil
    rw [hnil] at hlt
    exact absurd hlt (Nat.not_lt_zero _)
  rw [← intercalate_length hne, ← intercalate_length hflat, heq] at hlt
  omega

end Separated

end JoinedGroups
