import Mathlib.Data.List.Basic

/- UTF-8: the bytes of a text, and the text of any bytes, as a decoder that replaces what is
   malformed reads it (`buffer.toString('utf8')`, the WHATWG decoder). A sequence that breaks
   off becomes one U+FFFD, and the byte that broke it is read anew.

   `decode_encode`: a text that was encoded is read back. -/
namespace Utf8

/-- A sequence that has begun: the bytes still to come, the bits so far, and the range of the
next byte. -/
structure Pending where
  needed : ℕ
  bits : ℕ
  lower : ℕ := 0x80
  upper : ℕ := 0xBF

def replacement : Char := Char.ofNat 0xFFFD

/-- What a first byte does. -/
def first (b : ℕ) : List Char × Option Pending :=
  if b < 0x80 then ([Char.ofNat b], none)
  else if 0xC2 ≤ b ∧ b ≤ 0xDF then ([], some ⟨1, b - 0xC0, 0x80, 0xBF⟩)
  else if 0xE0 ≤ b ∧ b ≤ 0xEF then
    ([], some ⟨2, b - 0xE0, if b = 0xE0 then 0xA0 else 0x80, if b = 0xED then 0x9F else 0xBF⟩)
  else if 0xF0 ≤ b ∧ b ≤ 0xF4 then
    ([], some ⟨3, b - 0xF0, if b = 0xF0 then 0x90 else 0x80, if b = 0xF4 then 0x8F else 0xBF⟩)
  else ([replacement], none)

/-- What the next byte does. -/
def step : Option Pending → ℕ → List Char × Option Pending
  | none, b => first b
  | some p, b =>
    if p.lower ≤ b ∧ b ≤ p.upper then
      let bits := p.bits * 64 + b % 64
      if p.needed ≤ 1 then ([Char.ofNat bits], none) else ([], some { needed := p.needed - 1, bits := bits })
    else (replacement :: (first b).1, (first b).2)

def decodeFrom : Option Pending → List UInt8 → List Char
  | none, [] => []
  | some _, [] => [replacement]
  | state, b :: bs => (step state b.toNat).1 ++ decodeFrom (step state b.toNat).2 bs

def decode (bytes : List UInt8) : String := String.ofList (decodeFrom none bytes)

/-- The bytes of a character. -/
def encodeChar (c : Char) : List ℕ :=
  let n := c.toNat
  if n < 0x80 then [n]
  else if n < 0x800 then [0xC0 + n / 64, 0x80 + n % 64]
  else if n < 0x10000 then [0xE0 + n / 4096, 0x80 + n / 64 % 64, 0x80 + n % 64]
  else [0xF0 + n / 262144, 0x80 + n / 4096 % 64, 0x80 + n / 64 % 64, 0x80 + n % 64]

def encode (s : String) : List UInt8 := (s.toList.flatMap encodeChar).map UInt8.ofNat

theorem toNat_ofNat {n : ℕ} (h : n < 256) : (UInt8.ofNat n).toNat = n := by
  rw [UInt8.toNat_ofNat']
  exact Nat.mod_eq_of_lt h

theorem decodeFrom_cons {state : Option Pending} {n : ℕ} (h : n < 256) (bs : List UInt8) :
    decodeFrom state (UInt8.ofNat n :: bs) = (step state n).1 ++ decodeFrom (step state n).2 bs := by
  rw [decodeFrom, toNat_ofNat h]

/-- A byte within a sequence, not the last: six more bits. -/
theorem step_within {needed bits lower upper six : ℕ} (hsix : six < 64) (hlower : lower ≤ 0x80 + six)
    (hupper : 0x80 + six ≤ upper) :
    step (some ⟨needed + 2, bits, lower, upper⟩) (0x80 + six) = ([], some ⟨needed + 1, bits * 64 + six, 0x80, 0xBF⟩) := by
  have hbits : (0x80 + six) % 64 = six := by omega
  simp [step, hlower, hupper, hbits]

theorem step_last {bits lower upper six : ℕ} (hsix : six < 64) (hlower : lower ≤ 0x80 + six) (hupper : 0x80 + six ≤ upper) :
    step (some ⟨1, bits, lower, upper⟩) (0x80 + six) = ([Char.ofNat (bits * 64 + six)], none) := by
  have hbits : (0x80 + six) % 64 = six := by omega
  simp [step, hlower, hupper, hbits]

/-- The first bytes of the sequences, by their length. -/
theorem first_two {top : ℕ} (h : 2 ≤ top) (htop : top < 32) : step none (0xC0 + top) = ([], some ⟨1, top, 0x80, 0xBF⟩) := by
  have hascii : ¬ 0xC0 + top < 0x80 := by omega
  have hrange : 0xC2 ≤ 0xC0 + top ∧ 0xC0 + top ≤ 0xDF := by omega
  rw [step, first, if_neg hascii, if_pos hrange, Nat.add_sub_cancel_left]

theorem first_three {top : ℕ} (htop : top < 16) : step none (0xE0 + top) =
    ([], some ⟨2, top, if top = 0 then 0xA0 else 0x80, if top = 13 then 0x9F else 0xBF⟩) := by
  have hascii : ¬ 0xE0 + top < 0x80 := by omega
  have htwo : ¬ (0xC2 ≤ 0xE0 + top ∧ 0xE0 + top ≤ 0xDF) := by omega
  have hrange : 0xE0 ≤ 0xE0 + top ∧ 0xE0 + top ≤ 0xEF := by omega
  have hlower : (0xE0 + top = 0xE0) = (top = 0) := by simp
  have hupper : (0xE0 + top = 0xED) = (top = 13) := by
    rw [eq_iff_iff]
    omega
  rw [step, first, if_neg hascii, if_neg htwo, if_pos hrange, Nat.add_sub_cancel_left]
  simp only [hlower, hupper]

theorem first_four {top : ℕ} (htop : top < 5) : step none (0xF0 + top) =
    ([], some ⟨3, top, if top = 0 then 0x90 else 0x80, if top = 4 then 0x8F else 0xBF⟩) := by
  have hascii : ¬ 0xF0 + top < 0x80 := by omega
  have htwo : ¬ (0xC2 ≤ 0xF0 + top ∧ 0xF0 + top ≤ 0xDF) := by omega
  have hthree : ¬ (0xE0 ≤ 0xF0 + top ∧ 0xF0 + top ≤ 0xEF) := by omega
  have hrange : 0xF0 ≤ 0xF0 + top ∧ 0xF0 + top ≤ 0xF4 := by omega
  have hlower : (0xF0 + top = 0xF0) = (top = 0) := by simp
  have hupper : (0xF0 + top = 0xF4) = (top = 4) := by
    rw [eq_iff_iff]
    omega
  rw [step, first, if_neg hascii, if_neg htwo, if_neg hthree, if_pos hrange, Nat.add_sub_cancel_left]
  simp only [hlower, hupper]

/-- The bytes of a character are read as that character. -/
theorem decodeFrom_encodeChar (c : Char) (bs : List UInt8) :
    decodeFrom none ((encodeChar c).map UInt8.ofNat ++ bs) = c :: decodeFrom none bs := by
  have hscalar : c.toNat < 0xD800 ∨ (0xDFFF < c.toNat ∧ c.toNat < 0x110000) := c.valid
  have hback : Char.ofNat c.toNat = c := Char.ofNat_toNat c
  unfold encodeChar
  dsimp only
  generalize c.toNat = n at hscalar hback
  split
  · next hone =>
    have hfirst : step none n = ([Char.ofNat n], none) := by simp [step, first, hone]
    rw [List.map_singleton, List.singleton_append, decodeFrom_cons (by omega), hfirst, hback]
    rfl
  · split
    · next hone htwo =>
      have hlast := @step_last (n / 64) 0x80 0xBF (n % 64) (by omega) (by omega) (by omega)
      have hbits : n / 64 * 64 + n % 64 = n := by omega
      simp only [List.map_cons, List.map_nil, List.cons_append, List.nil_append]
      rw [decodeFrom_cons (by omega), first_two (by omega) (by omega), List.nil_append, decodeFrom_cons (by omega), hlast,
        hbits, hback]
      rfl
    · split
      · next hone htwo hthree =>
        have hlower : (if n / 4096 = 0 then 0xA0 else 0x80) ≤ 0x80 + n / 64 % 64 := by
          split <;> omega
        have hupper : 0x80 + n / 64 % 64 ≤ (if n / 4096 = 13 then 0x9F else 0xBF) := by
          -- the surrogates are no characters
          split <;> omega
        have hwithin := @step_within 0 (n / 4096) _ _ (n / 64 % 64) (by omega) hlower hupper
        have hlast := @step_last (n / 4096 * 64 + n / 64 % 64) 0x80 0xBF (n % 64) (by omega) (by omega) (by omega)
        have hbits : (n / 4096 * 64 + n / 64 % 64) * 64 + n % 64 = n := by omega
        simp only [List.map_cons, List.map_nil, List.cons_append, List.nil_append]
        rw [decodeFrom_cons (by omega), first_three (by omega), List.nil_append, decodeFrom_cons (by omega), hwithin,
          List.nil_append, decodeFrom_cons (by omega), hlast, hbits, hback]
        rfl
      · next hone htwo hthree =>
        have hlower : (if n / 262144 = 0 then 0x90 else 0x80) ≤ 0x80 + n / 4096 % 64 := by
          split <;> omega
        have hupper : 0x80 + n / 4096 % 64 ≤ (if n / 262144 = 4 then 0x8F else 0xBF) := by
          split <;> omega
        have hwithin := @step_within 1 (n / 262144) _ _ (n / 4096 % 64) (by omega) hlower hupper
        have hnext := @step_within 0 (n / 262144 * 64 + n / 4096 % 64) 0x80 0xBF (n / 64 % 64) (by omega) (by omega) (by omega)
        have hlast := @step_last ((n / 262144 * 64 + n / 4096 % 64) * 64 + n / 64 % 64) 0x80 0xBF (n % 64) (by omega)
          (by omega) (by omega)
        have hbits : ((n / 262144 * 64 + n / 4096 % 64) * 64 + n / 64 % 64) * 64 + n % 64 = n := by omega
        simp only [List.map_cons, List.map_nil, List.cons_append, List.nil_append]
        rw [decodeFrom_cons (by omega), first_four (by omega), List.nil_append, decodeFrom_cons (by omega), hwithin,
          List.nil_append, decodeFrom_cons (by omega), hnext, List.nil_append, decodeFrom_cons (by omega), hlast, hbits,
          hback]
        rfl

theorem decode_encode (s : String) : decode (encode s) = s := by
  have hlist : ∀ l : List Char, decodeFrom none ((l.flatMap encodeChar).map UInt8.ofNat) = l := by
    intro l
    induction l with
    | nil => rfl
    | cons c l ih => rw [List.flatMap_cons, List.map_append, decodeFrom_encodeChar, ih]
  rw [decode, encode, hlist, String.ofList_toList]

end Utf8
