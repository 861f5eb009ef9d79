import AiGateway.Lib.JsNumber
import AiGateway.Lib.JsonText

/- `parseInt(text, 10)`, which reads the digits at the start of a text. A natural number of up to
   53 bits is read back from its decimal text (`parseInt_natText`). -/
namespace JsNumber

/-- The integer at the start of a text, after white space and a sign. -/
def intPrefix (text : String) : Option ℚ :=
  let (negative, rest) := signPrefix (text.toList.dropWhile JsString.isWhiteSpace)
  let digits := rest.takeWhile Char.isDigit
  if digits = [] then none else some (signed negative (Json.digitsValue digits))

/-- `parseInt(text, 10)`; where there is no integer it is `NaN`. -/
def parseInt (text : String) : Option ℚ := (intPrefix text).bind Double.finite?

/-- `String(n)`. -/
def natText (n : ℕ) : String := String.ofList (Nat.toDigits 10 n)

theorem digitsValue_toDigits (n : ℕ) : Json.digitsValue (Nat.toDigits 10 n) = n := by
  calc Json.digitsValue (Nat.toDigits 10 n)
      = Nat.ofDigitChars 10 (Nat.toDigits 10 n) 0 := by rw [Nat.ofDigitChars_eq_foldl]; rfl
    _ = n := Nat.ofDigitChars_ten_toDigits

theorem intPrefix_natText (n : ℕ) : intPrefix (natText n) = some (n : ℚ) := by
  have hdigits := Json.toDigits_isDigit n
  have hall : (Nat.toDigits 10 n).takeWhile Char.isDigit = Nat.toDigits 10 n := List.takeWhile_eq_self_iff.mpr hdigits
  obtain ⟨c, cs, hcs⟩ := List.exists_cons_of_ne_nil (Nat.toDigits_ne_nil (n := n) (b := 10))
  have hc : c.isDigit = true := hdigits c (hcs ▸ List.mem_cons_self)
  have hstart : (Nat.toDigits 10 n).dropWhile JsString.isWhiteSpace = Nat.toDigits 10 n := by
    rw [hcs, List.dropWhile_cons_of_neg]
    rw [isWhiteSpace_digit hc]
    exact Bool.false_ne_true
  have hsign : signPrefix (Nat.toDigits 10 n) = (false, Nat.toDigits 10 n) := by
    rw [hcs, signPrefix_digit hc]
  rw [intPrefix, natText, String.toList_ofList, hstart, hsign]
  dsimp only
  rw [hall, if_neg Nat.toDigits_ne_nil, digitsValue_toDigits]
  rfl

theorem parseInt_natText {n : ℕ} (h : n < 2 ^ 53) : parseInt (natText n) = some (n : ℚ) := by
  rw [parseInt, intPrefix_natText]
  exact Double.finite?_natCast h

example : (parseInt " 42px", parseInt "", parseInt "x1", parseInt "-3.9") = (some 42, none, none, some (-3)) := by
  decide +kernel

end JsNumber
