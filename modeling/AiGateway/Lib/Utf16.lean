import AiGateway.Lib.JsString

/- Cutting a text at a UTF-16 unit. A list of units is well formed when it is the units of some
   text; a cut of such a list leaves two texts, or it goes through a surrogate pair
   (`cut_cases`), and then neither side is one. -/
namespace JsString

/-- Well-formed UTF-16. -/
def IsText (us : List ℕ) : Prop := ∃ t : String, units t = us

def isHighSurrogate (u : ℕ) : Bool := 0xD800 ≤ u && u ≤ 0xDBFF

def isLowSurrogate (u : ℕ) : Bool := 0xDC00 ≤ u && u ≤ 0xDFFF

/-- The left part ends in the first half of a pair, the right part starts with the second. -/
def SplitsPair (us vs : List ℕ) : Prop :=
  us.getLast?.any isHighSurrogate = true ∧ vs.head?.any isLowSurrogate = true

/-- The cut before unit `n` goes through a pair. -/
def CutsPair (us : List ℕ) (n : ℕ) : Prop := SplitsPair (us.take n) (us.drop n)

instance (us vs : List ℕ) : Decidable (SplitsPair us vs) := inferInstanceAs (Decidable (_ ∧ _))

instance (us : List ℕ) (n : ℕ) : Decidable (CutsPair us n) := inferInstanceAs (Decidable (SplitsPair _ _))

theorem isText_nil : IsText [] := ⟨"", rfl⟩

theorem isText_charUnits_append (c : Char) {us : List ℕ} (h : IsText us) : IsText (charUnits c ++ us) := by
  obtain ⟨t, rfl⟩ := h
  exact ⟨String.ofList (c :: t.toList), by simp [units]⟩

/-- One character: a unit that is no surrogate, or a pair. -/
theorem charUnits_cases (c : Char) :
    (∃ u, charUnits c = [u] ∧ isHighSurrogate u = false ∧ isLowSurrogate u = false) ∨
      ∃ u v, charUnits c = [u, v] ∧ isHighSurrogate u = true ∧ isLowSurrogate u = false ∧
        isHighSurrogate v = false ∧ isLowSurrogate v = true := by
  have hc := toNat_scalar c
  simp only [charUnits, isHighSurrogate, isLowSurrogate, Bool.and_eq_false_iff, Bool.and_eq_true,
    decide_eq_false_iff_not, decide_eq_true_eq]
  by_cases hsmall : c.toNat < 0x10000
  · refine .inl ⟨c.toNat, if_pos hsmall, ?_, ?_⟩
    · omega
    · omega
  · refine .inr ⟨_, _, if_neg hsmall, ?_, ?_, ?_, ?_⟩
    · omega
    · omega
    · omega
    · omega

/-- A text does not start with the second half of a pair. -/
theorem head?_of_isText {us : List ℕ} (h : IsText us) : us.head?.any isLowSurrogate = false := by
  obtain ⟨t, rfl⟩ := h
  unfold units
  cases t.toList with
  | nil => rfl
  | cons c cs =>
    obtain ⟨u, hu, -, hlow⟩ | ⟨u, v, hu, -, hlow, -⟩ := charUnits_cases c
    · simp [hu, hlow]
    · simp [hu, hlow]

/-- A text does not end in the first half of one. -/
theorem getLast?_of_isText {us : List ℕ} (h : IsText us) : us.getLast?.any isHighSurrogate = false := by
  obtain ⟨t, rfl⟩ := h
  unfold units
  induction t.toList using List.reverseRecOn with
  | nil => rfl
  | append_singleton cs c _ =>
    obtain ⟨u, hu, hhigh, -⟩ | ⟨u, v, hu, -, -, hhigh, -⟩ := charUnits_cases c
    · simp [hu, hhigh]
    · simp [hu, hhigh]

/-- A cut of a text leaves two texts unless it goes through a pair. -/
theorem cut_cases {us vs : List ℕ} (h : IsText (us ++ vs)) : (IsText us ∧ IsText vs) ∨ SplitsPair us vs := by
  obtain ⟨t, ht⟩ := h
  unfold units at ht
  generalize t.toList = cs at ht
  induction cs generalizing us with
  | nil =>
    obtain ⟨rfl, rfl⟩ := List.append_eq_nil_iff.mp ht.symm
    exact .inl ⟨isText_nil, isText_nil⟩
  | cons c cs ih =>
    rw [List.flatMap_cons] at ht
    have hrest : IsText (cs.flatMap charUnits) := ⟨String.ofList cs, by simp [units]⟩
    -- the text goes on after the first character of the left part
    have hnext : ∀ us', us = charUnits c ++ us' → (IsText us ∧ IsText vs) ∨ SplitsPair us vs := by
      rintro us' rfl
      rw [List.append_assoc] at ht
      obtain ⟨hus, hvs⟩ | hsplit := ih (List.append_cancel_left ht)
      · exact .inl ⟨isText_charUnits_append c hus, hvs⟩
      · refine .inr ⟨?_, hsplit.2⟩
        have hne : us' ≠ [] := by
          rintro rfl
          cases hsplit.1
        rw [List.getLast?_append_of_ne_nil _ hne]
        exact hsplit.1
    cases us with
    | nil =>
      rw [List.nil_append] at ht
      rw [← ht]
      exact .inl ⟨isText_nil, isText_charUnits_append c hrest⟩
    | cons u us' =>
      obtain ⟨w, hw, -, -⟩ | ⟨w, x, hw, hhigh, -, -, hlow⟩ := charUnits_cases c
      · rw [hw, List.cons_append, List.cons_append] at ht
        obtain ⟨rfl, -⟩ := List.cons.inj ht
        exact hnext us' (by rw [hw]; rfl)
      · rw [hw, List.cons_append, List.cons_append] at ht
        obtain ⟨rfl, ht'⟩ := List.cons.inj ht
        cases us' with
        | nil =>
          obtain rfl : x :: cs.flatMap charUnits = vs := ht'
          exact .inr ⟨hhigh, hlow⟩
        | cons u' us' =>
          obtain ⟨rfl, -⟩ := List.cons.inj ht'
          exact hnext us' (by rw [hw]; rfl)

/-- A cut through a pair leaves two lists of units that are no texts. -/
theorem not_isText_of_splitsPair {us vs : List ℕ} (h : SplitsPair us vs) : ¬ IsText us ∧ ¬ IsText vs := by
  refine ⟨?_, ?_⟩
  · intro htext
    have := getLast?_of_isText htext
    rw [h.1] at this
    cases this
  · intro htext
    have := head?_of_isText htext
    rw [h.2] at this
    cases this

end JsString
