import AiGateway.Lib.Double
import AiGateway.Lib.Json
import AiGateway.Lib.JsString

/- Numbers from text in JavaScript: `Number.parseFloat`, which reads the longest start of a text
   that is a decimal literal, and `Number`, which wants a whole text. A result is the nearest
   double where that is finite; `NaN` and the infinities are `none`.

   `parseFloat_number`: the text of a JSON number is read as that number. -/
namespace JsNumber

open Json (digitsValue)

/-- A sign, and the text after it. -/
def signPrefix : List Char → Bool × List Char
  | '-' :: cs => (true, cs)
  | '+' :: cs => (false, cs)
  | cs => (false, cs)

/-- The exponent at the start of a text, and the text after it; without digits there is none. -/
def exponentPrefix : List Char → ℤ × List Char
  | [] => (0, [])
  | c :: cs =>
    let (negative, digits) := signPrefix cs
    if (c = 'e' ∨ c = 'E') ∧ digits.takeWhile Char.isDigit ≠ [] then
      let value : ℤ := digitsValue (digits.takeWhile Char.isDigit)
      (if negative then -value else value, digits.dropWhile Char.isDigit)
    else (0, c :: cs)

/-- The fraction at the start of a text that comes after these digits. -/
def fractionPrefix (int : List Char) : List Char → List Char × List Char
  | [] => ([], [])
  | c :: cs =>
    if c = '.' ∧ (int ≠ [] ∨ cs.takeWhile Char.isDigit ≠ []) then (cs.takeWhile Char.isDigit, cs.dropWhile Char.isDigit)
    else ([], c :: cs)

/-- The decimal literal without a sign at the start of a text, and the text after it. -/
def decimalPrefix (l : List Char) : Option (ℚ × List Char) :=
  let int := l.takeWhile Char.isDigit
  let (frac, rest) := fractionPrefix int (l.dropWhile Char.isDigit)
  if int = [] ∧ frac = [] then none
  else
    let (exp, rest) := exponentPrefix rest
    some (digitsValue (int ++ frac) / 10 ^ frac.length * 10 ^ exp, rest)

def signed (negative : Bool) (q : ℚ) : ℚ := if negative then -q else q

/-- `Number.parseFloat`. -/
def parseFloat (text : String) : Option ℚ :=
  let (negative, rest) := signPrefix (text.toList.dropWhile JsString.isWhiteSpace)
  (decimalPrefix rest).bind fun (value, _) => Double.finite? (signed negative value)

/-- The value of a digit, up to `f`. -/
def digitValue? (c : Char) : Option ℕ :=
  if '0' ≤ c ∧ c ≤ '9' then some (c.toNat - '0'.toNat)
  else if 'a' ≤ c ∧ c ≤ 'f' then some (c.toNat - 'a'.toNat + 10)
  else if 'A' ≤ c ∧ c ≤ 'F' then some (c.toNat - 'A'.toNat + 10)
  else none

/-- The digits after `0x`, `0o` or `0b`. -/
def radixNumber (base : ℕ) (digits : List Char) : Option ℚ :=
  if digits = [] then none
  else
    (digits.mapM fun c => (digitValue? c).filter (· < base)).bind fun values =>
      Double.finite? (values.foldl (fun n d => base * n + d) 0 : ℕ)

/-- `Number` of a text. -/
def ofText (text : String) : Option ℚ :=
  match (JsString.trim text).toList with
  | [] => some 0
  | '0' :: 'x' :: digits | '0' :: 'X' :: digits => radixNumber 16 digits
  | '0' :: 'o' :: digits | '0' :: 'O' :: digits => radixNumber 8 digits
  | '0' :: 'b' :: digits | '0' :: 'B' :: digits => radixNumber 2 digits
  | literal =>
    let (negative, rest) := signPrefix literal
    (decimalPrefix rest).bind fun (value, rest) => if rest = [] then Double.finite? (signed negative value) else none

/-! ## The text of a JSON number -/

section Number

theorem not_isDigit_of_eq {c d : Char} (hd : d.isDigit = false) (h : c = d) : c.isDigit = false := h ▸ hd

/-- Digits before something else are taken off the start. -/
theorem takeWhile_digits {digits rest : List Char} (hdigits : ∀ c ∈ digits, c.isDigit = true)
    (hrest : ∀ c ∈ rest.head?, c.isDigit = false) :
    (digits ++ rest).takeWhile Char.isDigit = digits ∧ (digits ++ rest).dropWhile Char.isDigit = rest := by
  have hstop : rest.takeWhile Char.isDigit = [] ∧ rest.dropWhile Char.isDigit = rest := by
    cases rest with
    | nil => exact ⟨rfl, rfl⟩
    | cons c cs =>
      have hc := hrest c rfl
      simp [hc]
  rw [List.takeWhile_append_of_pos hdigits, List.dropWhile_append_of_pos hdigits, hstop.1, hstop.2, List.append_nil]
  exact ⟨rfl, rfl⟩

/-- The exponent of a number text, as both readers take it. -/
def exponentValue (exp : List Char) : ℤ :=
  if exp.tail.head? = some '-' then -(digitsValue (Json.dropSign exp.tail) : ℤ)
  else digitsValue (Json.dropSign exp.tail)

theorem exponentPrefix_eq {exp : List Char} (hhead : ∀ c ∈ exp.head?, c = 'e' ∨ c = 'E')
    (hexp : exp = [] ∨ Json.isDigits (Json.dropSign exp.tail) = true) : exponentPrefix exp = (exponentValue exp, []) := by
  cases exp with
  | nil => rfl
  | cons c s =>
    have hc := hhead c rfl
    have hdigits : Json.isDigits (Json.dropSign s) = true := hexp.resolve_left (List.cons_ne_nil c s)
    simp only [Json.isDigits, Bool.and_eq_true, List.all_eq_true] at hdigits
    have hsign : signPrefix s = (decide (s.head? = some '-'), Json.dropSign s) := by
      unfold signPrefix Json.dropSign
      split
      · rfl
      · rfl
      · next hminus hplus =>
        cases s with
        | nil => rfl
        | cons d ds =>
          have hd : d ≠ '-' := fun heq => hminus ds (heq ▸ rfl)
          simp [hd]
    have hnone : ∀ c ∈ ([] : List Char).head?, c.isDigit = false := by simp
    have htake := takeWhile_digits hdigits.2 hnone
    rw [List.append_nil] at htake
    have hne : Json.dropSign s ≠ [] := by simpa using hdigits.1
    rw [exponentPrefix, hsign]
    dsimp only
    rw [htake.1, htake.2, if_pos ⟨hc, hne⟩, exponentValue, List.tail_cons]
    by_cases hminus : s.head? = some '-'
    · simp [hminus]
    · simp [hminus]

/-- A text of digits, a fraction and an exponent is read as a whole. -/
theorem decimalPrefix_eq {int frac exp : List Char} (hint : int ≠ [] ∧ ∀ c ∈ int, c.isDigit = true)
    (hfracHead : ∀ c ∈ frac.head?, c = '.') (hfrac : ∀ c ∈ frac.tail, c.isDigit = true)
    (hexpHead : ∀ c ∈ exp.head?, c = 'e' ∨ c = 'E')
    (hexp : exp = [] ∨ Json.isDigits (Json.dropSign exp.tail) = true) :
    decimalPrefix (int ++ (frac ++ exp)) =
      some ((digitsValue (int ++ frac.tail) : ℚ) / 10 ^ frac.tail.length * 10 ^ exponentValue exp, []) := by
  have hstopExp : ∀ c ∈ exp.head?, c.isDigit = false := by
    intro c hc
    obtain heq | heq := hexpHead c hc
    · exact not_isDigit_of_eq (by decide) heq
    · exact not_isDigit_of_eq (by decide) heq
  have hstopFrac : ∀ c ∈ (frac ++ exp).head?, c.isDigit = false := by
    intro c hc
    cases frac with
    | nil => exact hstopExp c hc
    | cons d ds => exact not_isDigit_of_eq (by decide) (hfracHead c hc)
  have htake := takeWhile_digits hint.2 hstopFrac
  -- Without a fraction the point is looked for where the exponent starts.
  have hfraction : fractionPrefix int (frac ++ exp) = (frac.tail, exp) := by
    cases frac with
    | nil =>
      cases exp with
      | nil => rfl
      | cons c cs =>
        have hc : c ≠ '.' := by
          intro heq
          obtain he | he := hexpHead c rfl
          · exact absurd (heq.symm.trans he) (by decide)
          · exact absurd (heq.symm.trans he) (by decide)
        rw [List.nil_append, fractionPrefix, if_neg fun h => hc h.1]
        rfl
    | cons c cs =>
      have htakeFrac := takeWhile_digits hfrac hstopExp
      rw [List.tail_cons] at htakeFrac
      rw [List.cons_append, fractionPrefix, if_pos ⟨hfracHead c rfl, .inl hint.1⟩, htakeFrac.1, htakeFrac.2]
      rfl
  rw [decimalPrefix]
  dsimp only
  rw [htake.1, htake.2, hfraction, if_neg fun h => hint.1 h.1, exponentPrefix_eq hexpHead hexp]

theorem isIntPart_digits {int : List Char} (h : Json.isIntPart int = true) : int ≠ [] ∧ ∀ c ∈ int, c.isDigit = true := by
  unfold Json.isIntPart at h
  split at h
  · have hzero : '0'.isDigit = true := rfl
    exact ⟨by simp, List.forall_mem_singleton.mpr hzero⟩
  · next c cs _ =>
    simp only [Bool.and_eq_true, List.all_eq_true] at h
    exact ⟨List.cons_ne_nil c cs, List.forall_mem_cons.mpr ⟨h.1.1, h.2⟩⟩
  · cases h

/-- The exponent scales a number up or down. -/
theorem scale_eq (m : ℚ) (exp : List Char) : m * 10 ^ exponentValue exp =
    if exp.tail.head? = some '-' then m / (10 ^ digitsValue (Json.dropSign exp.tail) : ℕ)
    else m * (10 ^ digitsValue (Json.dropSign exp.tail) : ℕ) := by
  unfold exponentValue
  split
  · rw [zpow_neg, zpow_natCast, div_eq_mul_inv]
    push_cast
    rfl
  · rw [zpow_natCast]
    push_cast
    rfl

/-- What a run of characters was ended by. -/
theorem not_of_head?_dropWhile {p : Char → Bool} {l : List Char} {c : Char} (h : c ∈ (l.dropWhile p).head?) : p c = false := by
  have hnot := List.head?_dropWhile_not p l
  rw [Option.mem_def.mp h] at hnot
  simpa using hnot

/-- A number text is its sign and its parts. -/
theorem parts_append (l : List Char) : (if (Json.numberParts l).negative then l.tail else l) =
    (Json.numberParts l).int ++ ((Json.numberParts l).frac ++ (Json.numberParts l).exp) := by
  unfold Json.numberParts
  dsimp only
  rw [← List.append_assoc, List.takeWhile_append_dropWhile, List.takeWhile_append_dropWhile]

/-- A number text after its sign. -/
theorem decimalPrefix_number {n : Json.Number} :
    decimalPrefix (if (Json.numberParts n.text).negative then n.text.tail else n.text) =
      some (signed (Json.numberParts n.text).negative n.value, []) := by
  have hvalid := n.valid
  unfold Json.isNumberText at hvalid
  simp only [Bool.and_eq_true, Bool.or_eq_true, List.isEmpty_iff] at hvalid
  obtain ⟨⟨⟨_, hint⟩, hfrac⟩, hexp⟩ := hvalid
  -- Each part begins where the one before it stops, so that its first character is known.
  have hfracHead : ∀ c ∈ (Json.numberParts n.text).frac.head?, c = '.' := by
    intro c hc
    simpa using not_of_head?_dropWhile hc
  have hexpHead : ∀ c ∈ (Json.numberParts n.text).exp.head?, c = 'e' ∨ c = 'E' := by
    intro c hc
    have hnot := not_of_head?_dropWhile hc
    simp only [Bool.and_eq_false_iff, bne_eq_false_iff_eq] at hnot
    exact hnot
  have hfracDigits : ∀ c ∈ (Json.numberParts n.text).frac.tail, c.isDigit = true := by
    obtain hnil | hdigits := hfrac
    · simp [hnil]
    · simp only [Json.isDigits, Bool.and_eq_true, List.all_eq_true] at hdigits
      exact hdigits.2
  rw [parts_append, decimalPrefix_eq (isIntPart_digits hint) hfracHead hfracDigits hexpHead hexp]
  rw [scale_eq]
  unfold Json.Number.value signed
  dsimp only
  cases (Json.numberParts n.text).negative with
  | false => rfl
  | true => rw [if_pos rfl, if_pos rfl, neg_neg]

theorem isWhiteSpace_digit {c : Char} (h : c.isDigit = true) : JsString.isWhiteSpace c = false := by
  have hrange : 48 ≤ c.toNat ∧ c.toNat ≤ 57 := by
    rw [Char.isDigit, Bool.and_eq_true, decide_eq_true_eq, decide_eq_true_eq] at h
    exact h
  by_contra hwhite
  simp only [JsString.isWhiteSpace, Bool.not_eq_false, Bool.or_eq_true, Bool.and_eq_true, decide_eq_true_eq,
    beq_iff_eq] at hwhite
  omega

/-- A number that is not negative starts with a digit. -/
theorem isDigit_of_number {n : Json.Number} {c : Char} {cs : List Char} (htext : n.text = c :: cs)
    (hnegative : (Json.numberParts n.text).negative = false) : c.isDigit = true := by
  have hvalid := n.valid
  unfold Json.isNumberText at hvalid
  simp only [Bool.and_eq_true] at hvalid
  obtain ⟨hne, hdigits⟩ := isIntPart_digits hvalid.1.1.2
  have hparts := parts_append n.text
  rw [hnegative, if_neg Bool.false_ne_true, htext] at hparts
  rw [htext] at hne hdigits
  cases hint : (Json.numberParts (c :: cs)).int with
  | nil => exact absurd hint hne
  | cons d ds =>
    rw [hint, List.cons_append, List.cons.injEq] at hparts
    rw [hparts.1]
    exact hdigits d (by rw [hint]; exact List.mem_cons_self)

/-- A text that starts with a digit has no sign. -/
theorem signPrefix_digit {c : Char} (h : c.isDigit = true) (cs : List Char) :
    signPrefix (c :: cs) = (false, c :: cs) := by
  unfold signPrefix
  split
  · next heq => cases heq; cases h
  · next heq => cases heq; cases h
  · rfl

/-- The text of a number is read as that number. -/
theorem parseFloat_number (n : Json.Number) : parseFloat (String.ofList n.text) = Double.finite? n.value := by
  have hdecimal := decimalPrefix_number (n := n)
  have hsigned : ∀ negative, signed negative (signed negative n.value) = n.value := by
    intro negative
    cases negative with
    | false => rfl
    | true => exact neg_neg n.value
  have hne : n.text ≠ [] := by
    have hvalid := n.valid
    unfold Json.isNumberText at hvalid
    simp only [Bool.and_eq_true] at hvalid
    simpa using hvalid.1.1.1.1
  rw [parseFloat, String.toList_ofList]
  cases htext : n.text with
  | nil => exact absurd htext hne
  | cons c cs =>
    -- A JSON number has a minus sign or none; parseFloat would take white space and a plus as well.
    by_cases hminus : c = '-'
    · subst hminus
      have hnegative : (Json.numberParts n.text).negative = true := by simp [Json.numberParts, htext]
      rw [hnegative, if_pos rfl, htext, List.tail_cons] at hdecimal
      have hstart : ('-' :: cs).dropWhile JsString.isWhiteSpace = '-' :: cs := by
        rw [List.dropWhile_cons_of_neg (by decide)]
      rw [hstart, signPrefix]
      dsimp only
      rw [hdecimal, Option.bind_some, hsigned]
    · have hnegative : (Json.numberParts n.text).negative = false := by
        simp [Json.numberParts, htext, hminus]
      have hdigit := isDigit_of_number htext hnegative
      rw [hnegative, if_neg Bool.false_ne_true, htext] at hdecimal
      have hstart : (c :: cs).dropWhile JsString.isWhiteSpace = c :: cs := by
        rw [List.dropWhile_cons_of_neg]
        rw [isWhiteSpace_digit hdigit]
        exact Bool.false_ne_true
      rw [hstart, signPrefix_digit hdigit]
      dsimp only
      rw [hdecimal, Option.bind_some, hsigned]

end Number

example : parseFloat " -12.5e-1kg" = some (-1.25) := by decide +kernel
example : (parseFloat "1e400", parseFloat "nan", parseFloat "") = (none, none, none) := by decide +kernel
example : (ofText "0x1F", ofText "  ", ofText "12 34", ofText "3.") = (some 31, some 0, none, some 3) := by decide +kernel

end JsNumber
