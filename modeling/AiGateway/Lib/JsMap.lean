import Mathlib.Data.List.Basic
import Mathlib.Data.List.Nodup

/- A JavaScript `Map`: its entries in insertion order, one for each key. Setting a key that
   is there keeps its place; `entries` and `values` are read in that order.

   `get?_set_self`, `get?_set_ne`: what a lookup finds after `set`; `mem_entries`: the entries
   are what lookups find. `Numbered`: a map filled from key 0 on is a list, which `set` adds to
   or changes at an index. -/
namespace JsMap

variable {κ ν : Type} [DecidableEq κ]

/-- `set` on the entries. -/
def setEntry (k : κ) (v : ν) : List (κ × ν) → List (κ × ν)
  | [] => [(k, v)]
  | (k', v') :: m => if k' = k then (k, v) :: m else (k', v') :: setEntry k v m

theorem keys_setEntry (k : κ) (v : ν) (m : List (κ × ν)) :
    (setEntry k v m).map Prod.fst = if k ∈ m.map Prod.fst then m.map Prod.fst else m.map Prod.fst ++ [k] := by
  induction m with
  | nil => rfl
  | cons entry m ih =>
    obtain ⟨k', v'⟩ := entry
    by_cases hk : k' = k
    · simp [setEntry, hk]
    · by_cases hmem : k ∈ m.map Prod.fst
      · simp [setEntry, hk, ih, List.mem_cons, hmem]
      · simp [setEntry, hk, ih, List.mem_cons, hmem, Ne.symm hk]

end JsMap

structure JsMap (κ ν : Type) where
  entries : List (κ × ν)
  nodup : (entries.map Prod.fst).Nodup

namespace JsMap

variable {κ ν : Type} [DecidableEq κ]

def empty : JsMap κ ν := ⟨[], List.nodup_nil⟩

def get? (m : JsMap κ ν) (k : κ) : Option ν := (m.entries.find? fun e => e.1 = k).map Prod.snd

def set (m : JsMap κ ν) (k : κ) (v : ν) : JsMap κ ν where
  entries := setEntry k v m.entries
  nodup := by
    rw [keys_setEntry]
    split
    · exact m.nodup
    · next hk =>
      rw [← List.concat_eq_append]
      exact List.Nodup.concat hk m.nodup

/-- `delete m[k]`. -/
def erase (m : JsMap κ ν) (k : κ) : JsMap κ ν where
  entries := m.entries.filter fun e => e.1 ≠ k
  nodup := (List.filter_sublist.map Prod.fst).nodup m.nodup

def values (m : JsMap κ ν) : List ν := m.entries.map Prod.snd

theorem mem_entries {m : JsMap κ ν} {k : κ} {v : ν} : (k, v) ∈ m.entries ↔ m.get? k = some v := by
  obtain ⟨entries, hnodup⟩ := m
  show (k, v) ∈ entries ↔ (entries.find? fun e => e.1 = k).map Prod.snd = some v
  induction entries with
  | nil => simp
  | cons entry entries ih =>
    obtain ⟨k', v'⟩ := entry
    rw [List.map_cons, List.nodup_cons] at hnodup
    by_cases hk : k' = k
    · subst hk
      -- no later entry has the key
      have hlater : (k', v) ∉ entries := fun h => hnodup.1 (List.mem_map.mpr ⟨_, h, rfl⟩)
      simp [hlater, eq_comm]
    · have hne : ¬ (k, v) = (k', v') := fun h => hk (Prod.mk.inj h).1.symm
      rw [List.find?_cons_of_neg (by simpa using hk), ← ih hnodup.2]
      simp [hne]

@[simp] theorem get?_empty (k : κ) : (empty : JsMap κ ν).get? k = none := rfl

@[simp] theorem get?_set_self (m : JsMap κ ν) (k : κ) (v : ν) : (m.set k v).get? k = some v := by
  obtain ⟨entries, hnodup⟩ := m
  show ((setEntry k v entries).find? fun e => e.1 = k).map Prod.snd = some v
  clear hnodup
  induction entries with
  | nil => simp [setEntry]
  | cons entry entries ih =>
    by_cases hk : entry.1 = k
    · simp [setEntry, hk]
    · simp only [setEntry, hk, if_false]
      rw [List.find?_cons_of_neg (by simpa using hk)]
      exact ih

theorem get?_set_ne (m : JsMap κ ν) {k k' : κ} (v : ν) (hne : k' ≠ k) : (m.set k v).get? k' = m.get? k' := by
  obtain ⟨entries, hnodup⟩ := m
  show ((setEntry k v entries).find? fun e => e.1 = k').map Prod.snd = (entries.find? fun e => e.1 = k').map Prod.snd
  clear hnodup
  induction entries with
  | nil => simp [setEntry, Ne.symm hne]
  | cons entry entries ih =>
    by_cases hk : entry.1 = k
    · simp [setEntry, hk, Ne.symm hne]
    · simp only [setEntry, hk, if_false]
      by_cases hk' : entry.1 = k'
      · simp [hk']
      · rw [List.find?_cons_of_neg (by simpa using hk'), List.find?_cons_of_neg (by simpa using hk')]
        exact ih

/-- A key that is not there goes to the end. -/
theorem set_of_get?_none {m : JsMap κ ν} {k : κ} (v : ν) (h : m.get? k = none) :
    (m.set k v).entries = m.entries ++ [(k, v)] := by
  obtain ⟨entries, hnodup⟩ := m
  have habsent : ∀ e ∈ entries, e.1 ≠ k := by
    simpa [get?, List.find?_eq_none] using h
  show setEntry k v entries = entries ++ [(k, v)]
  clear h hnodup
  induction entries with
  | nil => rfl
  | cons entry entries ih =>
    have hne : entry.1 ≠ k := habsent entry List.mem_cons_self
    simp only [setEntry, hne, if_false, List.cons_append]
    rw [ih fun e he => habsent e (List.mem_cons_of_mem _ he)]

/-- Setting what is there changes nothing. -/
theorem set_of_get?_some {m : JsMap κ ν} {k : κ} {v : ν} (h : m.get? k = some v) : (m.set k v).entries = m.entries := by
  have hfind : (m.entries.find? fun e => e.1 = k).map Prod.snd = some v := h
  show setEntry k v m.entries = m.entries
  generalize m.entries = entries at hfind ⊢
  induction entries with
  | nil => cases hfind
  | cons entry entries ih =>
    obtain ⟨k', v'⟩ := entry
    by_cases hk : k' = k
    · have hv : v' = v := by simpa [hk] using hfind
      simp [setEntry, hk, hv]
    · rw [List.find?_cons_of_neg (by simpa using hk)] at hfind
      simp only [setEntry, hk, if_false]
      rw [ih hfind]

theorem get?_erase {m : JsMap κ ν} {k k' : κ} {v : ν} :
    (m.erase k).get? k' = some v ↔ k' ≠ k ∧ m.get? k' = some v := by
  rw [← mem_entries, ← mem_entries]
  show (k', v) ∈ m.entries.filter (fun e => e.1 ≠ k) ↔ _
  rw [List.mem_filter, decide_eq_true_iff, and_comm]

theorem get?_erase_ne (m : JsMap κ ν) {k k' : κ} (hne : k' ≠ k) : (m.erase k).get? k' = m.get? k' := by
  apply Option.ext
  intro v
  rw [get?_erase]
  exact and_iff_right hne

omit [DecidableEq κ] in
theorem ext_entries {m m' : JsMap κ ν} (h : m.entries = m'.entries) : m = m' := by
  cases m
  cases m'
  cases h
  rfl

/-- Keys that were added are taken out again, in any number. -/
def eraseAll (m : JsMap κ ν) (ks : List κ) : JsMap κ ν := ks.foldl erase m

theorem eraseAll_entries (m : JsMap κ ν) (ks : List κ) :
    (m.eraseAll ks).entries = m.entries.filter fun e => e.1 ∉ ks := by
  induction ks generalizing m with
  | nil => simp [eraseAll]
  | cons k ks ih =>
    show ((m.erase k).eraseAll ks).entries = _
    rw [ih]
    show (m.entries.filter fun e => e.1 ≠ k).filter (fun e => e.1 ∉ ks) = _
    rw [List.filter_filter]
    apply List.filter_congr
    intro e _
    simp [Bool.and_comm]

theorem eraseAll_of_added {m m' : JsMap κ ν} {added : List (κ × ν)} (h : m'.entries = m.entries ++ added)
    {ks : List κ} (hks : added.map Prod.fst = ks) : m'.eraseAll ks = m := by
  apply ext_entries
  have hnodup := m'.nodup
  rw [h, List.map_append, hks, List.nodup_append] at hnodup
  rw [eraseAll_entries, h, List.filter_append]
  have hold : m.entries.filter (fun e => e.1 ∉ ks) = m.entries := by
    rw [List.filter_eq_self]
    intro e he
    exact decide_eq_true fun hmem => hnodup.2.2 e.1 (List.mem_map.mpr ⟨e, he, rfl⟩) e.1 hmem rfl
  have hnew : added.filter (fun e => e.1 ∉ ks) = [] := by
    rw [List.filter_eq_nil_iff]
    intro e he
    simp [← hks, List.mem_map_of_mem he]
  rw [hold, hnew, List.append_nil]

theorem erase_set {m : JsMap κ ν} {k : κ} (v : ν) (h : m.get? k = none) : (m.set k v).erase k = m :=
  @eraseAll_of_added _ _ _ m (m.set k v) [(k, v)] (set_of_get?_none v h) [k] rfl

/-- A map with the keys of a list, in its order, and its values is the list. -/
theorem entries_eq {m : JsMap κ ν} {l : List (κ × ν)} (hkeys : m.entries.map Prod.fst = l.map Prod.fst)
    (hget : ∀ e ∈ l, m.get? e.1 = some e.2) : m.entries = l := by
  apply List.ext_getElem?
  intro i
  have hi : (m.entries.map Prod.fst)[i]? = (l.map Prod.fst)[i]? := by rw [hkeys]
  rw [List.getElem?_map, List.getElem?_map] at hi
  cases hl : l[i]? with
  | none =>
    rw [hl] at hi
    exact Option.map_eq_none_iff.mp hi
  | some e =>
    rw [hl] at hi
    obtain ⟨e', he', hkey⟩ := Option.map_eq_some_iff.mp hi
    have hvalue := mem_entries.mp (List.mem_of_getElem? he')
    rw [hkey, hget e (List.mem_of_getElem? hl)] at hvalue
    rw [he', Option.some_inj]
    exact Prod.ext hkey (Option.some.inj hvalue).symm

theorem mem_values {m : JsMap κ ν} {v : ν} : v ∈ m.values ↔ ∃ k, m.get? k = some v := by
  constructor
  · intro h
    obtain ⟨e, he, rfl⟩ := List.mem_map.mp h
    exact ⟨e.1, mem_entries.mp he⟩
  · rintro ⟨k, hk⟩
    exact List.mem_map.mpr ⟨(k, v), mem_entries.mpr hk, rfl⟩

/-- The same keys, each with another value. -/
def mapValues (m : JsMap κ ν) (f : κ → ν → ν) : JsMap κ ν where
  entries := m.entries.map fun e => (e.1, f e.1 e.2)
  nodup := by
    rw [List.map_map]
    exact m.nodup

theorem get?_mapValues (m : JsMap κ ν) (f : κ → ν → ν) (k : κ) : (m.mapValues f).get? k = (m.get? k).map (f k) := by
  obtain ⟨entries, hnodup⟩ := m
  show ((entries.map fun e => (e.1, f e.1 e.2)).find? fun e => e.1 = k).map Prod.snd =
    ((entries.find? fun e => e.1 = k).map Prod.snd).map (f k)
  clear hnodup
  induction entries with
  | nil => rfl
  | cons entry entries ih =>
    by_cases hk : entry.1 = k
    · simp [hk]
    · rw [List.map_cons, List.find?_cons_of_neg (by simpa using hk), List.find?_cons_of_neg (by simpa using hk)]
      exact ih

/-- An entry that passes a test is the only one when every entry that passes it has its key. -/
theorem countP_eq_one_iff {m : JsMap κ ν} {k : κ} {v : ν} (hget : m.get? k = some v) {test : ν → Bool}
    (hv : test v = true) : m.values.countP test = 1 ↔ ∀ k' v', m.get? k' = some v' → test v' = true → k' = k := by
  obtain ⟨before, after, hsplit⟩ := List.append_of_mem (mem_entries.mpr hget)
  have hnodup := m.nodup
  rw [hsplit, List.map_append, List.map_cons, List.nodup_middle, List.nodup_cons, ← List.map_append] at hnodup
  have hcount : m.values.countP test = ((before ++ after).map Prod.snd).countP test + 1 := by
    rw [values, hsplit, List.map_append, List.map_cons, List.countP_append, List.countP_cons_of_pos hv,
      List.map_append, List.countP_append]
    omega
  rw [hcount, Nat.add_eq_right, List.countP_eq_zero]
  constructor
  · intro hnone k' v' hget' htest
    have hmem := mem_entries.mpr hget'
    rw [hsplit, List.mem_append, List.mem_cons, or_left_comm, ← List.mem_append] at hmem
    obtain heq | hmem := hmem
    · exact (Prod.mk.inj heq).1
    · exact absurd htest (hnone v' (List.mem_map.mpr ⟨_, hmem, rfl⟩))
  · intro hall w hw htest
    obtain ⟨e, he, rfl⟩ := List.mem_map.mp hw
    have hmem : e ∈ m.entries := by
      rw [hsplit, List.mem_append, List.mem_cons, or_left_comm, ← List.mem_append]
      exact .inr he
    -- another entry with the key of the first
    have hkey := hall e.1 e.2 (mem_entries.mp hmem) htest
    exact hnodup.1 (List.mem_map.mpr ⟨e, he, hkey⟩)

/-! ## Maps that number their values -/

def numberedFrom (start : ℕ) : List ν → List (ℕ × ν)
  | [] => []
  | v :: vs => (start, v) :: numberedFrom (start + 1) vs

theorem numberedFrom_values (start : ℕ) (vs : List ν) : (numberedFrom start vs).map Prod.snd = vs := by
  induction vs generalizing start with
  | nil => rfl
  | cons v vs ih =>
    show v :: (numberedFrom (start + 1) vs).map Prod.snd = v :: vs
    rw [ih]

theorem find?_numberedFrom (start i : ℕ) (vs : List ν) :
    ((numberedFrom start vs).find? fun e => e.1 = start + i).map Prod.snd = vs[i]? := by
  induction vs generalizing start i with
  | nil => rfl
  | cons v vs ih =>
    cases i with
    | zero => simp [numberedFrom]
    | succ i =>
      have hnext : start + (i + 1) = start + 1 + i := by omega
      rw [numberedFrom, List.find?_cons_of_neg (by simp), hnext, ih]
      rfl

theorem setEntry_numberedFrom_end (start : ℕ) (v : ν) (vs : List ν) :
    setEntry (start + vs.length) v (numberedFrom start vs) = numberedFrom start (vs ++ [v]) := by
  induction vs generalizing start with
  | nil => rfl
  | cons w vs ih =>
    have hne : ¬ start = start + (w :: vs).length := by simp
    have hnext : start + (w :: vs).length = start + 1 + vs.length := by
      rw [List.length_cons]
      omega
    show (if start = start + (w :: vs).length then _ else _) = (start, w) :: numberedFrom (start + 1) (vs ++ [v])
    rw [if_neg hne, hnext, ih]

theorem setEntry_numberedFrom_set (start : ℕ) (v : ν) {i : ℕ} {vs : List ν} (hi : i < vs.length) :
    setEntry (start + i) v (numberedFrom start vs) = numberedFrom start (vs.set i v) := by
  induction vs generalizing start i with
  | nil => cases hi
  | cons w vs ih =>
    cases i with
    | zero => simp [numberedFrom, setEntry]
    | succ i =>
      have hne : ¬ start = start + (i + 1) := by omega
      have hnext : start + (i + 1) = start + 1 + i := by omega
      rw [List.length_cons] at hi
      show (if start = start + (i + 1) then _ else _) = (start, w) :: numberedFrom (start + 1) (vs.set i v)
      rw [if_neg hne, hnext, ih (start + 1) (by omega)]

/-- The keys are 0, 1, 2 and so on, in order. -/
def Numbered (m : JsMap ℕ ν) (vs : List ν) : Prop := m.entries = numberedFrom 0 vs

namespace Numbered

variable {m : JsMap ℕ ν} {vs : List ν}

theorem empty : Numbered (JsMap.empty : JsMap ℕ ν) [] := rfl

theorem values_eq (h : m.Numbered vs) : m.values = vs := by
  unfold JsMap.values
  rw [h, numberedFrom_values]

theorem get?_eq (h : m.Numbered vs) (i : ℕ) : m.get? i = vs[i]? := by
  have hfind := find?_numberedFrom 0 i vs
  rw [Nat.zero_add] at hfind
  unfold JsMap.get?
  rw [h, hfind]

/-- The next key adds a value. -/
theorem set_end (h : m.Numbered vs) (v : ν) : (m.set vs.length v).Numbered (vs ++ [v]) := by
  have hend := setEntry_numberedFrom_end 0 v vs
  rw [Nat.zero_add] at hend
  show setEntry vs.length v m.entries = _
  rw [h, hend]

/-- A key that is there has its value replaced. -/
theorem set_lt (h : m.Numbered vs) {i : ℕ} (hi : i < vs.length) (v : ν) : (m.set i v).Numbered (vs.set i v) := by
  have hset := setEntry_numberedFrom_set 0 v hi
  rw [Nat.zero_add] at hset
  show setEntry i v m.entries = _
  rw [h, hset]

end Numbered

end JsMap
