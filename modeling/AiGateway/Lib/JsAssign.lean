import AiGateway.Lib.JsMap

/- An object that is filled by assignments one after another (`object[key] = value`, or
   `Object.fromEntries`): a key has the value it was given last (`get?_assign`). -/
namespace JsMap

variable {κ ν : Type} [DecidableEq κ]

def assign (m : JsMap κ ν) (l : List (κ × ν)) : JsMap κ ν := l.foldl (fun m e => m.set e.1 e.2) m

/-- `Object.fromEntries`. -/
def ofEntries (l : List (κ × ν)) : JsMap κ ν := empty.assign l

/-- The value of the last entry with a key. -/
def lastOf (l : List (κ × ν)) (k : κ) : Option ν := (l.reverse.find? fun e => e.1 = k).map Prod.snd

section Last
variable {l l' : List (κ × ν)} {k : κ} {v : ν}

@[simp] theorem lastOf_nil (k : κ) : lastOf ([] : List (κ × ν)) k = none := rfl

theorem lastOf_append (l l' : List (κ × ν)) (k : κ) : lastOf (l ++ l') k = (lastOf l' k).or (lastOf l k) := by
  unfold lastOf
  rw [List.reverse_append, List.find?_append, Option.map_or]

theorem mem_of_lastOf (h : lastOf l k = some v) : (k, v) ∈ l := by
  obtain ⟨e, he, rfl⟩ := Option.map_eq_some_iff.mp h
  obtain rfl : e.1 = k := by simpa using List.find?_some he
  exact List.mem_reverse.mp (List.mem_of_find?_eq_some he)

theorem lastOf_eq_none : lastOf l k = none ↔ ∀ e ∈ l, e.1 ≠ k := by
  simp [lastOf]

theorem lastOf_append_left (h : ∀ e ∈ l', e.1 ≠ k) : lastOf (l ++ l') k = lastOf l k := by
  rw [lastOf_append, lastOf_eq_none.mpr h, Option.none_or]

/-- A key that is there has a last value, and it has the value that all its entries agree on. -/
theorem exists_lastOf (h : (k, v) ∈ l) : ∃ v', lastOf l k = some v' := by
  rw [← Option.isSome_iff_exists, ← Option.ne_none_iff_isSome, Ne, lastOf_eq_none]
  exact fun hnone => hnone (k, v) h rfl

theorem lastOf_of_agree (hmem : (k, v) ∈ l) (hagree : ∀ e ∈ l, e.1 = k → e.2 = v) : lastOf l k = some v := by
  obtain ⟨v', hlast⟩ := exists_lastOf hmem
  rw [hlast, ← hagree _ (mem_of_lastOf hlast) rfl]

/-- The entries of some items, by a key of each. -/
theorem lastOf_map {α : Type} (items : List α) (key : α → κ) (f : α → ν) (k : κ) :
    lastOf (items.map fun a => (key a, f a)) k = (lastOf (items.map fun a => (key a, a)) k).map f := by
  unfold lastOf
  rw [← List.map_reverse, ← List.map_reverse, List.find?_map, List.find?_map, Option.map_map, Option.map_map,
    Option.map_map]
  rfl

theorem lastOf_cons (e : κ × ν) (l : List (κ × ν)) (k : κ) :
    lastOf (e :: l) k = (lastOf l k).or (if e.1 = k then some e.2 else none) := by
  rw [← List.singleton_append, lastOf_append]
  unfold lastOf
  split
  · next h => simp [h]
  · next h => simp [h]

/-- Items that correspond one by one, with their keys, correspond where they are the last. -/
theorem lastOf_rel {α β : Type} {R : α → β → Prop} {as : List α} {bs : List β} {key : α → κ} {key' : β → κ}
    (h : List.Forall₂ R as bs) (hkeys : ∀ a b, R a b → key a = key' b) (k : κ) :
    Option.Rel R (lastOf (as.map fun a => (key a, a)) k) (lastOf (bs.map fun b => (key' b, b)) k) := by
  induction h with
  | nil => exact .none
  | @cons a b as bs hab _ ih =>
    rw [List.map_cons, List.map_cons, lastOf_cons, lastOf_cons, hkeys _ _ hab]
    generalize lastOf (as.map fun a => (key a, a)) k = last at ih ⊢
    generalize lastOf (bs.map fun b => (key' b, b)) k = last' at ih ⊢
    cases ih with
    | some hlast => exact .some hlast
    | none =>
      rw [Option.none_or, Option.none_or]
      split
      · exact .some hab
      · exact .none

theorem mem_of_lastOf_map {α : Type} {items : List α} {key : α → κ} {a : α}
    (h : lastOf (items.map fun a => (key a, a)) k = some a) : a ∈ items ∧ key a = k := by
  obtain ⟨b, hb, heq⟩ := List.mem_map.mp (mem_of_lastOf h)
  obtain ⟨rfl, rfl⟩ := Prod.mk.inj heq
  exact ⟨hb, rfl⟩

end Last

theorem get?_assign (m : JsMap κ ν) (l : List (κ × ν)) (k : κ) : (m.assign l).get? k = (lastOf l k).or (m.get? k) := by
  induction l generalizing m with
  | nil => rfl
  | cons e l ih =>
    show ((m.set e.1 e.2).assign l).get? k = (lastOf ([e] ++ l) k).or (m.get? k)
    rw [ih, lastOf_append, Option.or_assoc]
    by_cases hk : e.1 = k
    · subst hk
      simp [lastOf]
    · rw [get?_set_ne _ _ (Ne.symm hk)]
      simp [lastOf, hk]

theorem get?_ofEntries (l : List (κ × ν)) (k : κ) : (ofEntries l).get? k = lastOf l k := by
  unfold ofEntries
  rw [get?_assign, get?_empty, Option.or_none]

theorem mem_of_mem_ofEntries {l : List (κ × ν)} {e : κ × ν} (h : e ∈ (ofEntries l).entries) : e ∈ l := by
  obtain ⟨k, v⟩ := e
  rw [mem_entries, get?_ofEntries] at h
  exact mem_of_lastOf h

/-- The keys in their order depend on nothing but the keys that are assigned. -/
theorem keys_assign_congr {l l' : List (κ × ν)} {m m' : JsMap κ ν} (h : l.map Prod.fst = l'.map Prod.fst)
    (hm : m.entries.map Prod.fst = m'.entries.map Prod.fst) :
    (m.assign l).entries.map Prod.fst = (m'.assign l').entries.map Prod.fst := by
  induction l generalizing l' m m' with
  | nil =>
    obtain rfl := List.map_eq_nil_iff.mp h.symm
    exact hm
  | cons e l ih =>
    cases l' with
    | nil => cases h
    | cons e' l' =>
      obtain ⟨hkey, hrest⟩ := List.cons.inj h
      apply @ih l' (m.set e.1 e.2) (m'.set e'.1 e'.2) hrest
      show (setEntry e.1 e.2 m.entries).map Prod.fst = (setEntry e'.1 e'.2 m'.entries).map Prod.fst
      rw [keys_setEntry, keys_setEntry, hm, hkey]

/-- Each key has one entry, whatever is made of it. -/
theorem nodup_map_entries {α : Type} {m : JsMap κ ν} {f : κ × ν → α} :
    (m.entries.map f).Nodup ↔
      ∀ k v k' v', m.get? k = some v → m.get? k' = some v' → f (k, v) = f (k', v') → k = k' := by
  have hnodup : m.entries.Nodup := List.Nodup.of_map Prod.fst m.nodup
  rw [List.nodup_map_iff_inj_on hnodup]
  constructor
  · intro h k v k' v' hk hk' heq
    exact congrArg Prod.fst (h _ (mem_entries.mpr hk) _ (mem_entries.mpr hk') heq)
  · intro h e he e' he' heq
    have hget := mem_entries.mp (show (e.1, e.2) ∈ m.entries from he)
    have hget' := mem_entries.mp (show (e'.1, e'.2) ∈ m.entries from he')
    have hkey := h e.1 e.2 e'.1 e'.2 hget hget' heq
    rw [hkey, hget'] at hget
    exact Prod.ext hkey (Option.some.inj hget).symm

end JsMap
