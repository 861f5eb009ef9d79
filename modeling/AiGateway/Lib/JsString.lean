import Mathlib.Data.List.DropRight

/- The string operations of JavaScript the models use, on Lean strings: `trim` and
   blankness with ECMAScript's white space, truthiness, `startsWith`, `endsWith`, the part of
   a string before the first occurrence of a character (`s.split(c)[0]`), the UTF-16 units that
   lengths and indices count, and texts joined by a separator. -/
namespace JsString

/-- ECMAScript WhiteSpace and LineTerminator code points, the ones `trim` removes. -/
def isWhiteSpace (c : Char) : Bool :=
  let n := c.toNat
  (0x9 ≤ n && n ≤ 0xD) || n == 0x20 || n == 0xA0 || n == 0x1680 || (0x2000 ≤ n && n ≤ 0x200A) ||
    n == 0x2028 || n == 0x2029 || n == 0x202F || n == 0x205F || n == 0x3000 || n == 0xFEFF

/-- `String.prototype.trim`. -/
def trim (s : String) : String :=
  String.ofList ((s.toList.dropWhile isWhiteSpace).reverse.dropWhile isWhiteSpace).reverse

/-- The string of `...(s && { s })`: an empty one is left out like an absent one. -/
def truthy (s : Option String) : Option String := s.filter (· ≠ "")

@[simp] theorem truthy_none : truthy none = none := rfl

theorem truthy_some (s : String) : truthy (some s) = if s = "" then none else some s := by
  by_cases h : s = "" <;> simp [truthy, Option.filter, h]

theorem truthy_eq_some {s : Option String} {t : String} (h : truthy s = some t) : s = some t ∧ t ≠ "" := by
  obtain ⟨hs, ht⟩ := Option.filter_eq_some_iff.mp h
  exact ⟨hs, by simpa using ht⟩

@[simp] theorem truthy_truthy (s : Option String) : truthy (truthy s) = truthy s := by
  unfold truthy
  rw [Option.filter_filter]
  simp

theorem truthy_some_inj {s t : String} : truthy (some s) = truthy (some t) ↔ s = t := by
  rw [truthy_some, truthy_some]
  by_cases hs : s = ""
  · by_cases ht : t = ""
    · simp [hs, ht]
    · simp [hs, ht, eq_comm]
  · by_cases ht : t = ""
    · simp [hs, ht]
    · simp [hs, ht]

/-- `String.prototype.startsWith`. -/
def startsWith (s start : String) : Bool := decide (start.toList <+: s.toList)

/-- `String.prototype.endsWith`. -/
def endsWith (s suffix : String) : Bool := decide (suffix.toList <:+ s.toList)

/-- `s.split(c)[0]`: everything before the first `c`. -/
def beforeFirst (c : Char) (s : String) : String := String.ofList (s.toList.takeWhile (· != c))

/-- A trimmed string has nothing left to trim. -/
theorem trim_trim (s : String) : trim (trim s) = trim s := by
  have hhead : ∀ l : List Char, ((l.dropWhile isWhiteSpace).reverse.dropWhile isWhiteSpace).reverse.dropWhile
      isWhiteSpace = ((l.dropWhile isWhiteSpace).reverse.dropWhile isWhiteSpace).reverse := by
    intro l
    rw [List.dropWhile_eq_self_iff]
    intro hpos
    -- what is left is a prefix of the list without its leading blanks
    have hprefix : ((l.dropWhile isWhiteSpace).reverse.dropWhile isWhiteSpace).reverse <+:
        l.dropWhile isWhiteSpace := by
      have := List.dropWhile_suffix isWhiteSpace (l := (l.dropWhile isWhiteSpace).reverse)
      simpa using List.reverse_prefix.mpr this
    obtain ⟨rest, hrest⟩ := hprefix
    have hnot := List.head?_dropWhile_not isWhiteSpace l
    rw [← hrest, List.head?_append_of_ne_nil _ (List.ne_nil_of_length_pos hpos),
      List.head?_eq_getElem?, List.getElem?_eq_getElem hpos] at hnot
    simpa using hnot
  unfold trim
  simp [hhead, List.dropWhile_idempotent]

/-- What is not white space is not trimmed away. -/
theorem trim_ne_empty {s : String} {c : Char} (hmem : c ∈ s.toList) (hc : isWhiteSpace c = false) : trim s ≠ "" := by
  have hkept : ∀ l : List Char, c ∈ l → c ∈ l.dropWhile isWhiteSpace := by
    intro l hl
    rw [← List.takeWhile_append_dropWhile (p := isWhiteSpace) (l := l), List.mem_append] at hl
    obtain hdropped | hkept := hl
    · rw [List.mem_takeWhile_imp hdropped] at hc
      cases hc
    · exact hkept
  intro hempty
  have hmem' := List.mem_reverse.mpr (hkept _ (List.mem_reverse.mpr (hkept _ hmem)))
  unfold trim at hempty
  rw [String.ofList_eq_empty_iff.mp hempty] at hmem'
  cases hmem'

theorem mem_of_mem_trim {s : String} {c : Char} (h : c ∈ (trim s).toList) : c ∈ s.toList := by
  unfold trim at h
  rw [String.toList_ofList, List.mem_reverse] at h
  have hkept := (List.dropWhile_suffix isWhiteSpace).subset h
  exact (List.dropWhile_suffix isWhiteSpace).subset (List.mem_reverse.mp hkept)

/-! ## UTF-16 units -/

/-- The UTF-16 units of a character: its code, or a surrogate pair. -/
def charUnits (c : Char) : List ℕ :=
  if c.toNat < 0x10000 then [c.toNat]
  else [0xD800 + (c.toNat - 0x10000) / 0x400, 0xDC00 + (c.toNat - 0x10000) % 0x400]

/-- What `length` counts and `slice` cuts. -/
def units (s : String) : List ℕ := s.toList.flatMap charUnits

theorem toNat_scalar (c : Char) : c.toNat < 0xD800 ∨ (0xDFFF < c.toNat ∧ c.toNat < 0x110000) := c.valid

theorem charUnits_append_cancel {c d : Char} {us vs : List ℕ}
    (h : charUnits c ++ us = charUnits d ++ vs) : c = d ∧ us = vs := by
  have hc := toNat_scalar c
  have hd := toNat_scalar d
  have hnat : c.toNat = d.toNat ∧ us = vs := by
    unfold charUnits at h
    split at h <;> split at h <;>
      simp only [List.cons_append, List.nil_append, List.cons.injEq] at h
    · exact h
    · omega
    · omega
    · exact ⟨by omega, h.2.2⟩
  exact ⟨Char.toNat_inj.mp hnat.1, hnat.2⟩

theorem units_injective {s t : String} (h : units s = units t) : s = t := by
  have key : ∀ l m : List Char, l.flatMap charUnits = m.flatMap charUnits → l = m := by
    intro l
    induction l with
    | nil =>
      intro m h
      cases m with
      | nil => rfl
      | cons d m =>
        simp only [List.flatMap_nil, List.flatMap_cons, charUnits] at h
        split at h <;> simp at h
    | cons c l ih =>
      intro m h
      cases m with
      | nil =>
        simp only [List.flatMap_nil, List.flatMap_cons, charUnits] at h
        split at h <;> simp at h
      | cons d m =>
        rw [List.flatMap_cons, List.flatMap_cons] at h
        obtain ⟨rfl, hrest⟩ := charUnits_append_cancel h
        rw [ih m hrest]
  exact String.toList_inj.mp (key _ _ h)

/-! ## Separators -/

/-- Two texts that are joined by the same separator: the parts agree, or a separator inside
the one left part is the separator of the other. -/
theorem append_sep_eq_iff (c : Char) {a b r s : List Char} :
    a ++ c :: r = b ++ c :: s ↔
      (a = b ∧ r = s) ∨ (∃ x, b = a ++ c :: x ∧ r = x ++ c :: s) ∨
        ∃ x, a = b ++ c :: x ∧ s = x ++ c :: r := by
  constructor
  · intro h
    rcases List.append_eq_append_iff.mp h with ⟨rest, h1, h2⟩ | ⟨rest, h1, h2⟩
    · cases rest with
      | nil => exact .inl ⟨by simpa using h1.symm, by simpa using h2⟩
      | cons d x =>
        obtain ⟨rfl, hr⟩ := List.cons.inj h2
        exact .inr (.inl ⟨x, h1, hr⟩)
    · cases rest with
      | nil => exact .inl ⟨by simpa using h1, by simpa using h2.symm⟩
      | cons d x =>
        obtain ⟨rfl, hs⟩ := List.cons.inj h2
        exact .inr (.inr ⟨x, h1, hs⟩)
  · rintro (⟨rfl, rfl⟩ | ⟨x, rfl, rfl⟩ | ⟨x, rfl, rfl⟩)
    · rfl
    · simp
    · simp

theorem append_bar_eq_iff {a b r s : String} :
    a ++ "|" ++ r = b ++ "|" ++ s ↔
      (a = b ∧ r = s) ∨ (∃ x, b = a ++ "|" ++ x ∧ r = x ++ "|" ++ s) ∨
        ∃ x, a = b ++ "|" ++ x ∧ s = x ++ "|" ++ r := by
  have hbar : ("|" : String).toList = ['|'] := rfl
  have hex : ∀ P : String → Prop, (∃ x, P x) ↔ ∃ l, P (String.ofList l) := fun P =>
    ⟨fun ⟨x, h⟩ => ⟨x.toList, by rwa [String.ofList_toList]⟩, fun ⟨l, h⟩ => ⟨_, h⟩⟩
  simp only [hex, ← String.toList_inj, String.toList_append, String.toList_ofList, hbar, List.append_assoc,
    List.singleton_append]
  exact append_sep_eq_iff '|'

end JsString
