import AiGateway.Lib.Json
import Mathlib.Algebra.Order.Field.Rat
import Mathlib.Data.List.GetD
import Mathlib.Data.List.TakeWhile
import Mathlib.Data.Rat.Cast.Order

/- Facts about the texts of JSON values: a natural number is read back from its decimal text, no
   text has a line break in it, since strings are quoted, and a blank before a text is not read. -/
namespace Json

/-! ## Values of one type -/

def asNumber : Value → Option Number
  | .num n => some n
  | _ => none

def asText : Value → Option String
  | .str s => some s
  | _ => none

/-- A property that is a string. -/
def readText (v : Option Value) : Option String := v.bind asText

def asItems : Value → List Value
  | .arr items => items
  | _ => []

def asMembers : Value → List (String × Value)
  | .obj members => members
  | _ => []

/-- White space before a value says nothing. -/
theorem parse_blank (text : String) : parse (" " ++ text) = parse text := by
  have hlex : lex (" " ++ text).toList = lex text.toList := by
    rw [String.toList_append]
    exact lexFrom_silent .between rfl _
  unfold parse
  rw [hlex]

/-! ## Natural numbers -/

/-- A number without sign, fraction and exponent. -/
theorem numberParts_digits {l : List Char} (h : ∀ c ∈ l, c.isDigit = true) : numberParts l = ⟨false, l, [], []⟩ := by
  have hnone : ∀ c ∈ l, c ≠ '-' ∧ c ≠ 'e' ∧ c ≠ 'E' ∧ c ≠ '.' := by
    intro c hc
    have hdigit := h c hc
    refine ⟨?_, ?_, ?_, ?_⟩ <;> rintro rfl <;> cases hdigit
  have hhead : (l.head? == some '-') = false := by
    rw [beq_eq_false_iff_ne]
    intro heq
    exact (hnone '-' (List.mem_of_mem_head? heq)).1 rfl
  have hexp : ∀ c ∈ l, (c != 'e' && c != 'E') = true := by
    intro c hc
    simp [(hnone c hc).2.1, (hnone c hc).2.2.1]
  have hfrac : ∀ c ∈ l, (c != '.') = true := by
    intro c hc
    simp [(hnone c hc).2.2.2]
  unfold numberParts
  simp only [hhead, Bool.false_eq_true, if_false, List.takeWhile_eq_self_iff.mpr hexp,
    List.dropWhile_eq_nil_iff.mpr hexp, List.takeWhile_eq_self_iff.mpr hfrac,
    List.dropWhile_eq_nil_iff.mpr hfrac]

theorem toDigits_isDigit (n : ℕ) : ∀ c ∈ Nat.toDigits 10 n, c.isDigit = true := by
  intro c hc
  exact Nat.isDigit_of_mem_toDigits (by decide) (by decide) hc

theorem toDigits_head {n : ℕ} (hn : n ≠ 0) : ∃ c cs, Nat.toDigits 10 n = c :: cs ∧ c ≠ '0' := by
  induction n using Nat.strong_induction_on with
  | _ n ih =>
    by_cases hlt : n < 10
    · have hnonzero : ∀ m, m < 10 → m ≠ 0 → m.digitChar ≠ '0' := by decide
      exact ⟨n.digitChar, [], Nat.toDigits_of_lt_base hlt, hnonzero n hlt hn⟩
    · have hle : 10 ≤ n := by omega
      obtain ⟨c, cs, hcs, hc⟩ := ih (n / 10) (by omega) (by omega)
      rw [Nat.toDigits_of_base_le (by decide) hle, hcs]
      exact ⟨c, cs ++ [(n % 10).digitChar], rfl, hc⟩

theorem toDigits_isIntPart (n : ℕ) : isIntPart (Nat.toDigits 10 n) = true := by
  by_cases hn : n = 0
  · rw [hn]
    rfl
  · obtain ⟨c, cs, hcs, hc⟩ := toDigits_head hn
    have hdigits := toDigits_isDigit n
    rw [hcs] at hdigits ⊢
    have hall : cs.all Char.isDigit = true := List.all_eq_true.mpr fun d hd => hdigits d (List.mem_cons_of_mem c hd)
    have hcd : c.isDigit = true := hdigits c List.mem_cons_self
    unfold isIntPart
    split
    · rfl
    · next heq => cases heq; simp [hcd, hall, hc]
    · next heq => cases heq

theorem toDigits_isNumberText (n : ℕ) : isNumberText (Nat.toDigits 10 n) = true := by
  have hchars : (Nat.toDigits 10 n).all isNumberChar = true := by
    rw [List.all_eq_true]
    intro c hc
    simp [isNumberChar, toDigits_isDigit n c hc]
  unfold isNumberText
  rw [numberParts_digits (toDigits_isDigit n)]
  simp [hchars, toDigits_isIntPart, Nat.toDigits_ne_nil]

/-- The number that a natural number is written as. -/
def natNumber (n : ℕ) : Number := ⟨Nat.toDigits 10 n, toDigits_isNumberText n⟩

theorem natNumber_value (n : ℕ) : (natNumber n).value = n := by
  have hdigits : digitsValue (Nat.toDigits 10 n) = n := by
    calc digitsValue (Nat.toDigits 10 n)
        = Nat.ofDigitChars 10 (Nat.toDigits 10 n) 0 := by rw [Nat.ofDigitChars_eq_foldl]; rfl
      _ = n := Nat.ofDigitChars_ten_toDigits
  have hnil : digitsValue [] = 0 := rfl
  simp [Number.value, natNumber, numberParts_digits (toDigits_isDigit n), hdigits, dropSign, hnil]

/-- An index, as a client reads it. -/
def asNat : Value → Option ℕ
  | .num n => if n.value.den = 1 ∧ 0 ≤ n.value.num then some n.value.num.toNat else none
  | _ => none

theorem asNat_natNumber (n : ℕ) : asNat (.num (natNumber n)) = some n := by
  simp [asNat, natNumber_value]

/-! ## Line breaks -/

def isLineBreak (c : Char) : Bool := c = '\n' || c = '\r'

theorem not_lineBreak_of_all {l : List Char} (h : l.all (fun c => !isLineBreak c) = true) :
    ∀ c ∈ l, isLineBreak c = false := by
  intro c hc
  simpa using List.all_eq_true.mp h c hc

theorem hexDigit_not_lineBreak (n : ℕ) : isLineBreak (hexDigit n) = false := by
  by_cases hn : n < 16
  · have hall : ∀ m, m < 16 → isLineBreak (hexDigit m) = false := by decide
    exact hall n hn
  · have hlen : "0123456789abcdef".toList.length ≤ n := by
      have : "0123456789abcdef".toList.length = 16 := rfl
      omega
    unfold hexDigit
    rw [List.getD_eq_default _ _ hlen]
    rfl

theorem quoteChar_not_lineBreak (c d : Char) (hd : d ∈ quoteChar c) : isLineBreak d = false := by
  have hescaped : ∀ e, isLineBreak e = false → ∀ d ∈ ['\\', e], isLineBreak d = false := by
    intro e he d hd
    obtain rfl | hd := List.mem_cons.mp hd
    · rfl
    · obtain rfl := List.mem_singleton.mp hd
      exact he
  unfold quoteChar at hd
  split_ifs at hd with _ _ _ _ hn _ hr
  · exact hescaped _ rfl d hd
  · exact hescaped _ rfl d hd
  · exact hescaped _ rfl d hd
  · exact hescaped _ rfl d hd
  · exact hescaped _ rfl d hd
  · exact hescaped _ rfl d hd
  · exact hescaped _ rfl d hd
  -- What is left of the control characters becomes \u00xx.
  · have hhex := hexDigit_not_lineBreak
    simp only [List.mem_cons, List.not_mem_nil, or_false] at hd
    obtain rfl | rfl | rfl | rfl | rfl | rfl := hd
    · rfl
    · rfl
    · rfl
    · rfl
    · exact hhex _
    · exact hhex _
  · obtain rfl := List.mem_singleton.mp hd
    unfold isLineBreak
    rw [Bool.or_eq_false_iff, decide_eq_false_iff_not, decide_eq_false_iff_not]
    constructor
    · rintro rfl
      exact hn rfl
    · rintro rfl
      exact hr rfl

theorem numberChar_not_lineBreak {c : Char} (h : isNumberChar c = true) : isLineBreak c = false := by
  unfold isLineBreak
  rw [Bool.or_eq_false_iff, decide_eq_false_iff_not, decide_eq_false_iff_not]
  constructor
  · rintro rfl
    cases h
  · rintro rfl
    cases h

theorem render_not_lineBreak (t : Token) (c : Char) (hc : c ∈ t.render) : isLineBreak c = false := by
  cases t with
  | lbrace => exact not_lineBreak_of_all rfl c hc
  | rbrace => exact not_lineBreak_of_all rfl c hc
  | lbrack => exact not_lineBreak_of_all rfl c hc
  | rbrack => exact not_lineBreak_of_all rfl c hc
  | colon => exact not_lineBreak_of_all rfl c hc
  | comma => exact not_lineBreak_of_all rfl c hc
  | null => exact not_lineBreak_of_all rfl c hc
  | bool b => cases b <;> exact not_lineBreak_of_all rfl c hc
  | num n =>
    have hvalid := n.valid
    simp only [isNumberText, Bool.and_eq_true] at hvalid
    exact numberChar_not_lineBreak (List.all_eq_true.mp hvalid.1.1.1.2 c hc)
  | str s =>
    simp only [Token.render, List.mem_cons, List.mem_append, List.mem_flatMap, List.not_mem_nil, or_false] at hc
    obtain rfl | ⟨d, -, hd⟩ | rfl := hc
    · rfl
    · exact quoteChar_not_lineBreak d c hd
    · rfl

theorem stringify_not_lineBreak (v : Value) (c : Char) (hc : c ∈ (stringify v).toList) : isLineBreak c = false := by
  unfold stringify at hc
  rw [String.toList_ofList, List.mem_flatMap] at hc
  obtain ⟨t, -, ht⟩ := hc
  exact render_not_lineBreak t c ht

end Json
