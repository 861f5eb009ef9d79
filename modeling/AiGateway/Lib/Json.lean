import Mathlib.Algebra.Group.Int.Defs
import Mathlib.Algebra.Group.Nat.Defs
import Mathlib.Data.Rat.Defs
import Mathlib.Data.List.Basic

/- JSON text: `JSON.stringify` and `JSON.parse` on values whose strings are sequences of
   Unicode scalars. Text is read in two passes, as the grammar allows: an automaton that
   turns characters into tokens (`lex`), and a recursive descent over the tokens.

   A number is its text. `JSON.stringify` writes the shortest text of a double, which names
   it, so numbers with equal texts are equal numbers; `Number.value` is what a text denotes.
   An object is the list of its members as written, and a property is read as the last
   member of that name, as `JSON.parse` leaves it.

   `parse_stringify` is the round trip, `stringify_injective` follows from it. -/
namespace Json

/-! ## Numbers -/

def isNumberChar (c : Char) : Bool := c.isDigit || c ∈ ['-', '+', '.', 'e', 'E']

/-- `0`, or digits that do not start with `0`. -/
def isIntPart : List Char → Bool
  | ['0'] => true
  | c :: cs => c.isDigit && c != '0' && cs.all Char.isDigit
  | [] => false

def isDigits (l : List Char) : Bool := !l.isEmpty && l.all Char.isDigit

def dropSign : List Char → List Char
  | '-' :: cs | '+' :: cs => cs
  | cs => cs

/-- Sign, integer part, fraction (with its point) and exponent (with its `e`). -/
structure NumberParts where
  negative : Bool
  int : List Char
  frac : List Char
  exp : List Char

def numberParts (l : List Char) : NumberParts :=
  let negative := l.head? == some '-'
  let l := if negative then l.tail else l
  let mantissa := l.takeWhile (fun c => c != 'e' && c != 'E')
  { negative := negative
    int := mantissa.takeWhile (· != '.')
    frac := mantissa.dropWhile (· != '.')
    exp := l.dropWhile (fun c => c != 'e' && c != 'E') }

def isNumberText (l : List Char) : Bool :=
  let p := numberParts l
  !l.isEmpty && l.all isNumberChar && isIntPart p.int &&
    (p.frac.isEmpty || isDigits p.frac.tail) && (p.exp.isEmpty || isDigits (dropSign p.exp.tail))

structure Number where
  text : List Char
  valid : isNumberText text = true
  deriving DecidableEq

def digitsValue (l : List Char) : ℕ := l.foldl (fun n c => 10 * n + (c.toNat - '0'.toNat)) 0

def Number.value (n : Number) : ℚ :=
  let p := numberParts n.text
  let mantissa : ℚ := digitsValue (p.int ++ p.frac.tail) / 10 ^ p.frac.tail.length
  let scale : ℕ := 10 ^ digitsValue (dropSign p.exp.tail)
  let magnitude := if p.exp.tail.head? = some '-' then mantissa / scale else mantissa * scale
  if p.negative then -magnitude else magnitude

/-! ## Values, tokens -/

inductive Value where
  | null
  | bool (b : Bool)
  | num (n : Number)
  | str (s : String)
  | arr (items : List Value)
  | obj (members : List (String × Value))

inductive Token where
  | lbrace | rbrace | lbrack | rbrack | colon | comma
  | null
  | bool (b : Bool)
  | num (n : Number)
  | str (s : String)
  deriving DecidableEq

mutual
def tokens : Value → List Token
  | .null => [.null]
  | .bool b => [.bool b]
  | .num n => [.num n]
  | .str s => [.str s]
  | .arr [] => [.lbrack, .rbrack]
  | .arr (v :: vs) => .lbrack :: (tokens v ++ itemTokens vs)
  | .obj [] => [.lbrace, .rbrace]
  | .obj ((k, v) :: ms) => .lbrace :: .str k :: .colon :: (tokens v ++ memberTokens ms)
/-- The rest of an array after one of its items. -/
def itemTokens : List Value → List Token
  | [] => [.rbrack]
  | v :: vs => .comma :: (tokens v ++ itemTokens vs)
/-- The rest of an object after one of its members. -/
def memberTokens : List (String × Value) → List Token
  | [] => [.rbrace]
  | (k, v) :: ms => .comma :: .str k :: .colon :: (tokens v ++ memberTokens ms)
end

mutual
def parseValue : ℕ → List Token → Option (Value × List Token)
  | 0, _ => none
  | n + 1, ts =>
    match ts with
    | .null :: r => some (.null, r)
    | .bool b :: r => some (.bool b, r)
    | .num x :: r => some (.num x, r)
    | .str s :: r => some (.str s, r)
    | .lbrack :: .rbrack :: r => some (.arr [], r)
    | .lbrack :: r => (parseItems n r).map fun p => (.arr p.1, p.2)
    | .lbrace :: .rbrace :: r => some (.obj [], r)
    | .lbrace :: r => (parseMembers n r).map fun p => (.obj p.1, p.2)
    | _ => none
def parseItems : ℕ → List Token → Option (List Value × List Token)
  | 0, _ => none
  | n + 1, ts =>
    match parseValue n ts with
    | some (v, .comma :: r) => (parseItems n r).map fun p => (v :: p.1, p.2)
    | some (v, .rbrack :: r) => some ([v], r)
    | _ => none
def parseMembers : ℕ → List Token → Option (List (String × Value) × List Token)
  | 0, _ => none
  | n + 1, ts =>
    match ts with
    | .str k :: .colon :: r =>
      match parseValue n r with
      | some (v, .comma :: r) => (parseMembers n r).map fun p => ((k, v) :: p.1, p.2)
      | some (v, .rbrace :: r) => some ([(k, v)], r)
      | _ => none
    | _ => none
end

/-! ## Characters -/

def hexDigit (n : ℕ) : Char := "0123456789abcdef".toList.getD n '0'

def hexValue? (c : Char) : Option ℕ :=
  let n := c.toNat
  if 48 ≤ n ∧ n ≤ 57 then some (n - 48)
  else if 97 ≤ n ∧ n ≤ 102 then some (n - 87)
  else if 65 ≤ n ∧ n ≤ 70 then some (n - 55)
  else none

/-- One character of a string, quoted as `JSON.stringify` quotes it. -/
def quoteChar (c : Char) : List Char :=
  if c = '"' then ['\\', '"']
  else if c = '\\' then ['\\', '\\']
  else if c.toNat = 8 then ['\\', 'b']
  else if c.toNat = 9 then ['\\', 't']
  else if c.toNat = 10 then ['\\', 'n']
  else if c.toNat = 12 then ['\\', 'f']
  else if c.toNat = 13 then ['\\', 'r']
  else if c.toNat < 32 then ['\\', 'u', '0', '0', hexDigit (c.toNat / 16), hexDigit (c.toNat % 16)]
  else [c]

def Token.render : Token → List Char
  | .lbrace => ['\x7b']
  | .rbrace => ['\x7d']
  | .lbrack => ['[']
  | .rbrack => [']']
  | .colon => [':']
  | .comma => [',']
  | .null => "null".toList
  | .bool true => "true".toList
  | .bool false => "false".toList
  | .num n => n.text
  | .str s => '"' :: (s.toList.flatMap quoteChar ++ ['"'])

/-- Where the lexer stands. `hi` is a high surrogate that waits for its other half. -/
inductive Mode where
  | between
  | str (acc : List Char) (hi : Option ℕ)
  | esc (acc : List Char) (hi : Option ℕ)                -- after a backslash
  | hex (acc : List Char) (hi : Option ℕ) (k value : ℕ)  -- `k` digits of `\uXXXX` are missing
  | word (rest : List Char) (t : Token)                  -- inside `null`, `true`, `false`
  | num (acc : List Char)
  deriving DecidableEq

def replacementChar : Char := Char.ofNat 0xfffd

/-- A surrogate without its other half is no scalar. -/
def flushHi (acc : List Char) : Option ℕ → List Char
  | none => acc
  | some _ => acc ++ [replacementChar]

def endHex (acc : List Char) (hi : Option ℕ) (value : ℕ) : Mode :=
  if 0xdc00 ≤ value ∧ value < 0xe000 then
    match hi with
    | some h => .str (acc ++ [Char.ofNat (0x10000 + (h - 0xd800) * 0x400 + (value - 0xdc00))]) none
    | none => .str (acc ++ [replacementChar]) none
  else if 0xd800 ≤ value ∧ value < 0xdc00 then .str (flushHi acc hi) (some value)
  else .str (flushHi acc hi ++ [Char.ofNat value]) none

def escapeChar? : Char → Option Char
  | '"' => some '"'
  | '\\' => some '\\'
  | '/' => some '/'
  | 'b' => some (Char.ofNat 8)
  | 'f' => some (Char.ofNat 12)
  | 'n' => some '\n'
  | 'r' => some '\r'
  | 't' => some '\t'
  | _ => none

/-- A character between tokens: the tokens it completes and the mode it starts. -/
def start (c : Char) : Option (List Token × Mode) :=
  if c ∈ [' ', '\t', '\n', '\r'] then some ([], .between)
  else if isNumberChar c then some ([], .num [c])
  else match c with
    | '\x7b' => some ([.lbrace], .between)
    | '\x7d' => some ([.rbrace], .between)
    | '[' => some ([.lbrack], .between)
    | ']' => some ([.rbrack], .between)
    | ':' => some ([.colon], .between)
    | ',' => some ([.comma], .between)
    | '"' => some ([], .str [] none)
    | 'n' => some ([], .word "ull".toList .null)
    | 't' => some ([], .word "rue".toList (.bool true))
    | 'f' => some ([], .word "alse".toList (.bool false))
    | _ => none

def numberToken (acc : List Char) : Option Token :=
  if h : isNumberText acc = true then some (.num ⟨acc, h⟩) else none

def lexStep : Mode → Char → Option (List Token × Mode)
  | .between, c => start c
  | .str acc hi, c =>
    if c = '"' then some ([.str (String.ofList (flushHi acc hi))], .between)
    else if c = '\\' then some ([], .esc acc hi)
    else if c.toNat < 32 then none
    else some ([], .str (flushHi acc hi ++ [c]) none)
  | .esc acc hi, c =>
    if c = 'u' then some ([], .hex acc hi 4 0)
    else (escapeChar? c).map fun d => ([], .str (flushHi acc hi ++ [d]) none)
  | .hex acc hi k value, c =>
    (hexValue? c).map fun d =>
      if k ≤ 1 then ([], endHex acc hi (16 * value + d)) else ([], .hex acc hi (k - 1) (16 * value + d))
  | .word rest t, c =>
    match rest with
    | [] => none
    | r :: rest => if c ≠ r then none else if rest = [] then some ([t], .between) else some ([], .word rest t)
  | .num acc, c =>
    if isNumberChar c then some ([], .num (acc ++ [c]))
    else do
      let t ← numberToken acc
      let (ts, mode) ← start c
      some (t :: ts, mode)

/-- The tokens of a text that starts in a mode; the text may end between tokens or in a number. -/
def lexFrom : Mode → List Char → Option (List Token)
  | .between, [] => some []
  | .num acc, [] => (numberToken acc).map ([·])
  | _, [] => none
  | mode, c :: cs => (lexStep mode c).bind fun p => (lexFrom p.2 cs).map (p.1 ++ ·)

def lex (text : List Char) : Option (List Token) := lexFrom .between text

/-! ## The two functions -/

def stringify (v : Value) : String := String.ofList ((tokens v).flatMap Token.render)

def parse (text : String) : Option Value :=
  (lex text.toList).bind fun ts =>
    match parseValue ts.length ts with
    | some (v, []) => some v
    | _ => none

/-- The property of an object: the last member of the name. -/
def Value.get? : Value → String → Option Value
  | .obj members, key => (members.reverse.find? (·.1 = key)).map (·.2)
  | _, _ => none

/-! ## Reading back: tokens -/

theorem tokens_length_pos : ∀ v : Value, 0 < (tokens v).length
  | .null | .bool _ | .num _ | .str _ | .arr [] | .obj [] => by simp [tokens]
  | .arr (_ :: _) | .obj ((_, _) :: _) => by simp [tokens]

/-- A value never starts with `]`, so a nonempty array is not taken for the empty one. -/
theorem parseValue_lbrack (n : ℕ) (v : Value) (r : List Token) :
    parseValue (n + 1) (.lbrack :: (tokens v ++ r)) =
      (parseItems n (tokens v ++ r)).map fun p => (.arr p.1, p.2) := by
  match v with
  | .null | .bool _ | .num _ | .str _ | .arr [] | .obj [] => rfl
  | .arr (_ :: _) | .obj ((_, _) :: _) => simp only [tokens, List.cons_append, parseValue]

mutual
theorem parseValue_tokens : ∀ (v : Value) (n : ℕ) (r : List Token), (tokens v).length ≤ n →
    parseValue n (tokens v ++ r) = some (v, r)
  | v, 0, _, h => absurd h (by have := tokens_length_pos v; omega)
  | .null, _ + 1, _, _ => rfl
  | .bool _, _ + 1, _, _ => rfl
  | .num _, _ + 1, _, _ => rfl
  | .str _, _ + 1, _, _ => rfl
  | .arr [], _ + 1, _, _ => rfl
  | .arr (v :: vs), n + 1, r, h => by
    simp only [tokens, List.length_cons, List.length_append] at h
    have hitems := parseItems_tokens v vs n r (by omega)
    simp only [tokens, List.cons_append, List.append_assoc]
    rw [parseValue_lbrack, hitems]
    rfl
  | .obj [], _ + 1, _, _ => rfl
  | .obj ((k, v) :: ms), n + 1, r, h => by
    simp only [tokens, List.length_cons, List.length_append] at h
    have hmembers := parseMembers_tokens k v ms n r (by omega)
    simp only [tokens, List.cons_append, List.append_assoc]
    simp only [parseValue, hmembers, Option.map_some]
theorem parseItems_tokens : ∀ (v : Value) (vs : List Value) (n : ℕ) (r : List Token),
    (tokens v).length + (itemTokens vs).length ≤ n →
    parseItems n (tokens v ++ (itemTokens vs ++ r)) = some (v :: vs, r)
  | v, vs, 0, _, h => absurd h (by have := tokens_length_pos v; omega)
  | v, [], n + 1, r, h => by
    simp only [itemTokens, List.length_singleton] at h
    have hv := parseValue_tokens v n (.rbrack :: r) (by omega)
    simp only [itemTokens, List.cons_append, List.nil_append, parseItems, hv]
  | v, w :: ws, n + 1, r, h => by
    simp only [itemTokens, List.length_cons, List.length_append] at h
    have hv := parseValue_tokens v n (.comma :: (tokens w ++ (itemTokens ws ++ r))) (by omega)
    have hws := parseItems_tokens w ws n r (by omega)
    simp only [itemTokens, List.cons_append, List.append_assoc, parseItems, hv, hws, Option.map_some]
theorem parseMembers_tokens : ∀ (k : String) (v : Value) (ms : List (String × Value)) (n : ℕ)
    (r : List Token), (tokens v).length + (memberTokens ms).length ≤ n →
    parseMembers n (.str k :: .colon :: (tokens v ++ (memberTokens ms ++ r))) = some ((k, v) :: ms, r)
  | _, v, _, 0, _, h => absurd h (by have := tokens_length_pos v; omega)
  | k, v, [], n + 1, r, h => by
    simp only [memberTokens, List.length_singleton] at h
    have hv := parseValue_tokens v n (.rbrace :: r) (by omega)
    simp only [memberTokens, List.cons_append, List.nil_append, parseMembers, hv]
  | k, v, (l, w) :: ms, n + 1, r, h => by
    simp only [memberTokens, List.length_cons, List.length_append] at h
    have hv := parseValue_tokens v n
      (.comma :: .str l :: .colon :: (tokens w ++ (memberTokens ms ++ r))) (by omega)
    have hms := parseMembers_tokens l w ms n r (by omega)
    simp only [memberTokens, List.cons_append, List.append_assoc, parseMembers, hv, hms, Option.map_some]
end

/-! ## Reading back: characters -/

theorem lexFrom_cons (mode : Mode) (c : Char) (cs : List Char) :
    lexFrom mode (c :: cs) = (lexStep mode c).bind fun p => (lexFrom p.2 cs).map (p.1 ++ ·) := by
  cases mode <;> rfl

theorem lexFrom_silent {mode : Mode} {c : Char} (mode' : Mode) (h : lexStep mode c = some ([], mode'))
    (cs : List Char) : lexFrom mode (c :: cs) = lexFrom mode' cs := by
  rw [lexFrom_cons, h]
  simp

theorem lexFrom_emit {mode : Mode} {c : Char} (t : Token) (mode' : Mode)
    (h : lexStep mode c = some ([t], mode')) (cs : List Char) :
    lexFrom mode (c :: cs) = (lexFrom mode' cs).map (t :: ·) := by
  rw [lexFrom_cons, h]
  rfl

theorem hexValue_hexDigit : ∀ d, d < 16 → hexValue? (hexDigit d) = some d := by decide

theorem lexFrom_control {d e : ℕ} (hd : d < 2) (he : e < 16) (acc cs : List Char) :
    lexFrom (.str acc none) ('\\' :: 'u' :: '0' :: '0' :: hexDigit d :: hexDigit e :: cs) =
      lexFrom (.str (acc ++ [Char.ofNat (16 * d + e)]) none) cs := by
  have h1 : lexStep (.hex acc none 2 0) (hexDigit d) = some ([], .hex acc none 1 d) := by
    simp [lexStep, hexValue_hexDigit d (by omega)]
  have h2 : lexStep (.hex acc none 1 d) (hexDigit e) =
      some ([], .str (acc ++ [Char.ofNat (16 * d + e)]) none) := by
    simp [lexStep, hexValue_hexDigit e he, endHex, flushHi, show ¬(56320 ≤ 16 * d + e) by omega,
      show ¬(55296 ≤ 16 * d + e) by omega]
  rw [lexFrom_silent (.esc acc none) (by simp [lexStep]),
    lexFrom_silent (.hex acc none 4 0) (by simp [lexStep]),
    lexFrom_silent (.hex acc none 3 0) (by simp [lexStep, hexValue?]),
    lexFrom_silent (.hex acc none 2 0) (by simp [lexStep, hexValue?]),
    lexFrom_silent _ h1, lexFrom_silent _ h2]

theorem lexFrom_escape {c d : Char} (hu : c ≠ 'u') (hd : escapeChar? c = some d) (acc cs : List Char) :
    lexFrom (.str acc none) ('\\' :: c :: cs) = lexFrom (.str (acc ++ [d]) none) cs := by
  rw [lexFrom_silent (.esc acc none) (by simp [lexStep]),
    lexFrom_silent (.str (acc ++ [d]) none) (by simp [lexStep, hu, hd, flushHi])]

theorem char_eq_ofNat {c : Char} {n : ℕ} (h : c.toNat = n) : c = Char.ofNat n := by
  rw [← h, Char.ofNat_toNat]

theorem lexFrom_quoteChar (c : Char) (acc cs : List Char) :
    lexFrom (.str acc none) (quoteChar c ++ cs) = lexFrom (.str (acc ++ [c]) none) cs := by
  unfold quoteChar
  split
  · next h => subst h; exact lexFrom_escape (by decide) rfl acc cs
  split
  · next h => subst h; exact lexFrom_escape (by decide) rfl acc cs
  split
  · next h => rw [char_eq_ofNat h]; exact lexFrom_escape (by decide) rfl acc cs
  split
  · next h => rw [char_eq_ofNat h]; exact lexFrom_escape (by decide) rfl acc cs
  split
  · next h => rw [char_eq_ofNat h]; exact lexFrom_escape (by decide) rfl acc cs
  split
  · next h => rw [char_eq_ofNat h]; exact lexFrom_escape (by decide) rfl acc cs
  split
  · next h => rw [char_eq_ofNat h]; exact lexFrom_escape (by decide) rfl acc cs
  split
  · next h =>
    have hc : Char.ofNat (16 * (c.toNat / 16) + c.toNat % 16) = c := by
      rw [Nat.div_add_mod, Char.ofNat_toNat]
    have := @lexFrom_control (c.toNat / 16) (c.toNat % 16) (by omega) (by omega) acc cs
    rw [hc] at this
    exact this
  · next hq hb _ _ _ _ _ hlow =>
    exact lexFrom_silent _ (by simp [lexStep, hq, hb, hlow, flushHi]) cs

theorem lexFrom_quoted (s acc cs : List Char) :
    lexFrom (.str acc none) (s.flatMap quoteChar ++ '"' :: cs) =
      (lexFrom .between cs).map (.str (String.ofList (acc ++ s)) :: ·) := by
  induction s generalizing acc with
  | nil => rw [List.append_nil]; exact lexFrom_emit _ _ (by simp [lexStep, flushHi]) cs
  | cons c s ih =>
    rw [List.flatMap_cons, List.append_assoc, lexFrom_quoteChar, ih]
    simp

/-- The text does not go on with a character of a number. -/
def EndsNumber : List Char → Prop
  | [] => True
  | c :: _ => isNumberChar c = false

theorem lexFrom_digits {acc l : List Char} (hl : l.all isNumberChar = true) (cs : List Char) :
    lexFrom (.num acc) (l ++ cs) = lexFrom (.num (acc ++ l)) cs := by
  induction l generalizing acc with
  | nil => simp
  | cons c l ih =>
    rw [List.all_cons, Bool.and_eq_true] at hl
    rw [List.cons_append, lexFrom_silent (.num (acc ++ [c])) (by simp [lexStep, hl.1]), ih hl.2]
    simp

theorem lexFrom_endNumber (n : Number) {cs : List Char} (hcs : EndsNumber cs) :
    lexFrom (.num n.text) cs = (lexFrom .between cs).map (.num n :: ·) := by
  have htoken : numberToken n.text = some (.num n) := by simp [numberToken, n.valid]
  match cs, hcs with
  | [], _ => simp [lexFrom, htoken]
  | c :: cs, hc =>
    have hc : isNumberChar c = false := hc
    have hstep : lexStep .between c = start c := rfl
    rw [lexFrom_cons, lexFrom_cons, hstep]
    simp only [lexStep, hc, htoken, Bool.false_eq_true, if_false, Option.bind_eq_bind, Option.bind_some]
    cases start c with
    | none => rfl
    | some p =>
      simp only [Option.bind_some]
      cases lexFrom p.2 cs <;> rfl

theorem lexFrom_number (n : Number) {cs : List Char} (hcs : EndsNumber cs) :
    lexFrom .between (n.text ++ cs) = (lexFrom .between cs).map (.num n :: ·) := by
  have hvalid := n.valid
  simp only [isNumberText, Bool.and_eq_true] at hvalid
  obtain ⟨⟨⟨⟨hne, hall⟩, -⟩, -⟩, -⟩ := hvalid
  rw [← lexFrom_endNumber n hcs]
  match htext : n.text, hne, hall with
  | c :: l, _, hall =>
    rw [List.all_cons, Bool.and_eq_true] at hall
    have hstart : lexStep .between c = some ([], .num [c]) := by
      have hws : c ∉ [' ', '\t', '\n', '\r'] := by
        intro hmem
        have h1 := hall.1
        simp only [List.mem_cons, List.not_mem_nil, or_false] at hmem
        rcases hmem with rfl | rfl | rfl | rfl <;> exact absurd h1 (by decide)
      simp only [lexStep, start, if_neg hws, hall.1, if_true]
    rw [List.cons_append, lexFrom_silent _ hstart, lexFrom_digits hall.2]
    rfl

/-- Every token is read back; a number needs the text after it to end it. -/
theorem lexFrom_render (t : Token) {cs : List Char} (hcs : ∀ n, t = .num n → EndsNumber cs) :
    lexFrom .between (t.render ++ cs) = (lexFrom .between cs).map (t :: ·) := by
  match t with
  | .num n => exact lexFrom_number n (hcs n rfl)
  | .str s =>
    have := lexFrom_quoted s.toList [] cs
    rw [List.nil_append, String.ofList_toList] at this
    simp only [Token.render, List.cons_append, List.append_assoc, List.nil_append]
    rw [lexFrom_silent (.str [] none) (by decide), this]
  | .lbrace | .rbrace | .lbrack | .rbrack | .colon | .comma => exact lexFrom_emit _ _ (by decide) cs
  | .null =>
    show lexFrom .between ('n' :: 'u' :: 'l' :: 'l' :: cs) = _
    rw [lexFrom_silent (.word "ull".toList .null) (by decide),
      lexFrom_silent (.word "ll".toList .null) (by decide),
      lexFrom_silent (.word "l".toList .null) (by decide), lexFrom_emit .null .between (by decide)]
  | .bool true =>
    show lexFrom .between ('t' :: 'r' :: 'u' :: 'e' :: cs) = _
    rw [lexFrom_silent (.word "rue".toList (.bool true)) (by decide),
      lexFrom_silent (.word "ue".toList (.bool true)) (by decide),
      lexFrom_silent (.word "e".toList (.bool true)) (by decide),
      lexFrom_emit (.bool true) .between (by decide)]
  | .bool false =>
    show lexFrom .between ('f' :: 'a' :: 'l' :: 's' :: 'e' :: cs) = _
    rw [lexFrom_silent (.word "alse".toList (.bool false)) (by decide),
      lexFrom_silent (.word "lse".toList (.bool false)) (by decide),
      lexFrom_silent (.word "se".toList (.bool false)) (by decide),
      lexFrom_silent (.word "e".toList (.bool false)) (by decide),
      lexFrom_emit (.bool false) .between (by decide)]

/-- No number stands directly before another. -/
def Spaced : List Token → Prop
  | .num _ :: .num _ :: _ => False
  | _ :: ts => Spaced ts
  | [] => True

theorem render_endsNumber {t : Token} (ht : ∀ n, t ≠ .num n) (cs : List Char) :
    EndsNumber (t.render ++ cs) := by
  match t with
  | .num n => exact absurd rfl (ht n)
  | .lbrace | .rbrace | .lbrack | .rbrack | .colon | .comma | .null | .bool true | .bool false => rfl
  | .str _ => rfl

theorem lex_render : ∀ ts : List Token, Spaced ts → lex (ts.flatMap Token.render) = some ts
  | [], _ => rfl
  | [t], _ => by
    have h := @lexFrom_render t [] (fun _ _ => trivial)
    simpa [lex, lexFrom] using h
  | t :: u :: ts, h => by
    have hrest : Spaced (u :: ts) := by
      match t, h with
      | .lbrace, h | .rbrace, h | .lbrack, h | .rbrack, h | .colon, h | .comma, h => exact h
      | .null, h | .bool _, h | .str _, h => exact h
      | .num _, h => cases u <;> first | exact h | exact h.elim
    have hends : ∀ n, t = .num n → EndsNumber ((u :: ts).flatMap Token.render) := by
      rintro n rfl
      apply render_endsNumber
      rintro m rfl
      exact h
    have ih := lex_render (u :: ts) hrest
    rw [List.flatMap_cons, lex, lexFrom_render t hends]
    rw [lex] at ih
    rw [ih]
    rfl

/-! ## Stringified text is spaced -/

def headIsNumber : List Token → Bool
  | .num _ :: _ => true
  | _ => false

theorem Spaced.cons {t : Token} {ts : List Token} (h : Spaced ts)
    (hts : headIsNumber ts = false ∨ ∀ n, t ≠ .num n) : Spaced (t :: ts) := by
  match t, ts with
  | .num n, .num m :: _ =>
    rcases hts with hts | hts
    · cases hts
    · exact absurd rfl (hts n)
  | .num _, [] => exact h
  | .num _, .lbrace :: _ | .num _, .rbrace :: _ | .num _, .lbrack :: _ | .num _, .rbrack :: _ => exact h
  | .num _, .colon :: _ | .num _, .comma :: _ | .num _, .null :: _ | .num _, .bool _ :: _ => exact h
  | .num _, .str _ :: _ => exact h
  | .lbrace, _ | .rbrace, _ | .lbrack, _ | .rbrack, _ | .colon, _ | .comma, _ => exact h
  | .null, _ | .bool _, _ | .str _, _ => exact h

mutual
theorem spaced_tokens : ∀ (v : Value) (r : List Token), Spaced r → headIsNumber r = false →
    Spaced (tokens v ++ r)
  | .null, _, h, _ => h.cons (.inr (by simp))
  | .bool _, _, h, _ => h.cons (.inr (by simp))
  | .num _, _, h, hr => h.cons (.inl hr)
  | .str _, _, h, _ => h.cons (.inr (by simp))
  | .arr [], _, h, _ => (h.cons (.inr (by simp))).cons (.inr (by simp))
  | .arr (v :: vs), r, h, _ => by
    have hitems := spaced_items vs r h
    have hv := spaced_tokens v (itemTokens vs ++ r) hitems.1 hitems.2
    simp only [tokens, List.cons_append, List.append_assoc]
    exact hv.cons (.inr (by simp))
  | .obj [], _, h, _ => (h.cons (.inr (by simp))).cons (.inr (by simp))
  | .obj ((k, v) :: ms), r, h, _ => by
    have hmembers := spaced_members ms r h
    have hv := spaced_tokens v (memberTokens ms ++ r) hmembers.1 hmembers.2
    simp only [tokens, List.cons_append, List.append_assoc]
    exact ((hv.cons (.inr (by simp))).cons (.inr (by simp))).cons (.inr (by simp))
theorem spaced_items : ∀ (vs : List Value) (r : List Token), Spaced r →
    Spaced (itemTokens vs ++ r) ∧ headIsNumber (itemTokens vs ++ r) = false
  | [], _, h => ⟨h.cons (.inr (by simp)), rfl⟩
  | v :: vs, r, h => by
    have hitems := spaced_items vs r h
    have hv := spaced_tokens v (itemTokens vs ++ r) hitems.1 hitems.2
    simp only [itemTokens, List.cons_append, List.append_assoc]
    exact ⟨hv.cons (.inr (by simp)), rfl⟩
theorem spaced_members : ∀ (ms : List (String × Value)) (r : List Token), Spaced r →
    Spaced (memberTokens ms ++ r) ∧ headIsNumber (memberTokens ms ++ r) = false
  | [], _, h => ⟨h.cons (.inr (by simp)), rfl⟩
  | (k, v) :: ms, r, h => by
    have hmembers := spaced_members ms r h
    have hv := spaced_tokens v (memberTokens ms ++ r) hmembers.1 hmembers.2
    simp only [memberTokens, List.cons_append, List.append_assoc]
    exact ⟨((hv.cons (.inr (by simp))).cons (.inr (by simp))).cons (.inr (by simp)), rfl⟩
end

theorem parse_stringify (v : Value) : parse (stringify v) = some v := by
  have hspaced : Spaced (tokens v) := by
    have := spaced_tokens v [] trivial rfl
    rwa [List.append_nil] at this
  have hparse := parseValue_tokens v (tokens v).length [] (Nat.le_refl _)
  rw [List.append_nil] at hparse
  simp only [parse, stringify, String.toList_ofList, lex_render _ hspaced, Option.bind_some, hparse]

theorem stringify_injective : Function.Injective stringify := by
  intro v w h
  have hv := parse_stringify v
  rw [h, parse_stringify w] at hv
  exact (Option.some.inj hv).symm

end Json
